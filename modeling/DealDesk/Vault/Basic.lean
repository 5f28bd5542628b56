import DealDesk.Vault.Safe

/-!
# Vaults

A vault keeps at most one session: in memory, as long as the vault itself lasts,
or in a safe on a disk.  It does not look at the expiry of what it keeps; whoever
asks for a valid session names the time and a margin.

**Results.** A vault in memory gives back what was saved, and nothing after it was
cleared.
-/

namespace DealDesk

namespace Vault

/-- The credential store: where a vault keeps its session. -/
inductive Store where
  | memory (slot : Option Session)
  | file (safe : Safe)

end Vault

/-- The session cache: a store, with the disk it may use and the nonces it draws. -/
structure Vault where
  store : Vault.Store
  disk : Disk
  /-- The nonces in the order in which they are drawn. -/
  nonces : Nat → Cipher.Nonce
  drawn : Nat

namespace Vault

/-- The margin of whoever names none, in seconds. -/
def defaultMargin : Span := Span.ofSeconds 300

/-- What is shown of a margin in diagnostics. -/
def marginDiagnostic (margin : Span) : String :=
  "SessionCache \x7b margin: " ++ margin.diagnostic ++ ", .. \x7d"

/-- The session that is kept. -/
def load (v : Vault) : Except Fault (Option Session) :=
  match v.store with
  | .memory slot => .ok slot
  | .file safe => safe.load v.disk

/-- A session is kept from now on, in the place of any other one. -/
def save (v : Vault) (s : Session) : Except Fault Unit × Vault :=
  match v.store with
  | .memory _ => (.ok (), { v with store := .memory (some s) })
  | .file safe =>
      let (result, disk) := safe.save v.disk (v.nonces v.drawn) s
      (result, { v with disk, drawn := v.drawn + 1 })

/-- No session is kept from now on. -/
def clear (v : Vault) : Except Fault Unit × Vault :=
  match v.store with
  | .memory _ => (.ok (), { v with store := .memory none })
  | .file safe =>
      let (result, disk) := safe.clear v.disk
      (result, { v with disk })

/-- The session that is kept, if it is valid with a margin. -/
def valid? (v : Vault) (now : Instant) (margin : Span) : Except Fault (Option Session) :=
  match v.load with
  | .error e => .error e
  | .ok none => .ok none
  | .ok (some s) => .ok (if s.isValidAt now margin then some s else none)

/-- What is found in a vault by one who has no use for what cannot be read. -/
structure Recovery where
  /-- The valid session, if there is one. -/
  found : Except Fault (Option Session)
  /-- Why what was kept is discarded. -/
  discarded : Option Fault
  vault : Vault

/-- The session that is kept, if it is valid with a margin; what cannot be read is cleared. -/
def recover (v : Vault) (now : Instant) (margin : Span) : Recovery :=
  match v.valid? now margin with
  | .ok found => ⟨.ok found, none, v⟩
  | .error fault =>
      if fault.isCorruption then
        match v.clear with
        | (.error e, v) => ⟨.error e, some fault, v⟩
        | (.ok (), v) => ⟨.ok none, some fault, v⟩
      else ⟨.error fault, none, v⟩

theorem recover_of_valid
    {v : Vault} {now : Instant} {margin : Span} {found : Option Session}
    (h : v.valid? now margin = .ok found) :
    v.recover now margin = ⟨.ok found, none, v⟩ := by
  simp [recover, h]

theorem load_save_memory
    {v : Vault} {slot : Option Session} (h : v.store = .memory slot) (s : Session) :
    (v.save s).2.load = .ok (some s) := by
  simp [save, load, h]

theorem load_clear_memory
    {v : Vault} {slot : Option Session} (h : v.store = .memory slot) :
    v.clear.2.load = .ok none := by
  simp [clear, load, h]

end Vault
end DealDesk
