import DealDesk.Command.Run
import DealDesk.Proofs.Gateway.Client

/-!
# One verdict on a request

A request can be asked about its rules directly or as a ticket, it can be handed to a client,
and its text can be put into a file that a command checks.  Each way walks over the table
anew, and some of them stop early.

**Results.** `Gateway.Client.perform_eq_invalid_iff`: a client refuses an operation as invalid
exactly if its ticket breaks rules.  `Station.tells_of_read`: what the command says of a
file.  `verdicts_agree`: for each kind of request all ways give the verdict of the one list
of broken rules.
-/

namespace DealDesk

namespace Gateway

/-- An operation breaks what its ticket breaks. -/
theorem Operation.breaks_iff
    {op : Operation} {t : Ticket} (h : op.ticket = some t) {e : Invalid} :
    op.Breaks e ↔ t.violations ≠ [] ∧ e = ⟨t.ruleSet, t.violations⟩ := by
  constructor
  · rintro ⟨method, path, version, tail, t', hrow, hviolations, rfl⟩
    have ht : t' = t := Option.some.inj (hrow.ticket_eq.symm.trans h)
    subst ht
    exact ⟨hviolations, rfl⟩
  · rintro ⟨hviolations, rfl⟩
    have hrow := op.endpoint
    rw [h] at hrow
    exact ⟨_, _, _, _, t, hrow, hviolations, rfl⟩

/-- An answer that calls an operation invalid says what it breaks. -/
theorem Client.perform_eq_invalid_iff
    {c : Client} {op : Operation} {n : Network} {e : Invalid} :
    (c.perform op n).1 = .error (.invalid e) ↔ op.Breaks e := by
  have hperforms := c.performs op n
  refine ⟨fun h => ?_, fun h => (hperforms.invalid e h).1⟩
  by_cases hbreaks : ∃ e', op.Breaks e'
  · obtain ⟨e', he'⟩ := hbreaks
    have heq := (hperforms.invalid e' he').1.symm.trans h
    cases heq
    exact he'
  · -- Then the answer is that of the headers or of the request, and is never `invalid`.
    have hsound := not_exists.1 hbreaks
    by_cases hunfit : ∃ name, c.Unfit name
    · obtain ⟨name, hname⟩ := hunfit
      rw [(hperforms.unfit hsound name hname).1] at h
      cases h
    · obtain ⟨r, -, -, hanswer⟩ := hperforms.hands hsound (not_exists.1 hunfit)
      rw [hanswer] at h
      cases houtcome : Answer.ofOutcome op (n.answer n.sent.length r) with
      | error fault =>
          rw [houtcome] at h
          cases h
      | ok answer =>
          rw [houtcome] at h
          cases h

end Gateway

namespace Station

/--
What the command says of a request that breaks the listed rules, and how it ends: one line
for a request that breaks nothing, and otherwise one line for each rule that is broken, in
the order of the list, and a last one with their number.  Nothing else about the station
changes.
-/
structure Tells (s : Station) (kind : RuleSet) (path : String) (vs : List Violation)
    (ending : Nat × Station) : Prop where
  passed : vs = [] → ending
    = (0, { s with
        said := s.said ++ ["OK: " ++ path ++ " is a valid " ++ kind.name ++ " request"] })
  broken : vs ≠ [] → ending
    = (1, { s with
        said := s.said ++ vs.map fun v =>
          v.rule ++ " [" ++ String.intercalate ", " v.fields ++ "]: " ++ v.message
        warned := s.warned
          ++ ["Error: " ++ toString vs.length ++ " rule violation(s) in " ++ path] })

/-- A file with the text of a ticket passes, or what it breaks is said line by line. -/
theorem tells_of_read
    {s : Station} {kind : RuleSet} {path text : String} {t : Ticket}
    (hfile : s.disk.read ⟨path⟩ = .ok (Text.bytes text))
    (ht : Ticket.ofText kind text = .ok t) :
    s.Tells kind path t.violations (conclude (s.obey ["validate", kind.name, path])) := by
  have hobey : s.obey ["validate", kind.name, path] = s.validate kind ⟨path⟩ := by
    rw [obey, Command.ofWords_validate]
    rfl
  rw [hobey, validate, hfile]
  simp only [Text.ofBytes?_bytes, ht]
  cases hviolations : t.violations with
  | nil => exact ⟨fun _ => rfl, fun h => absurd rfl h⟩
  | cons v vs =>
      have hreport (p : Disk.Path) (n : Nat) :
          (Command.Trouble.violations p n).report
            = "Error: " ++ toString n ++ " rule violation(s) in " ++ p.text := by
        have hchain : (Command.Trouble.violations p n).chain
            = [toString n ++ " rule violation(s) in " ++ p.text] := by
          rw [← natText_eq]
          rfl
        rw [Command.Trouble.report, hchain, Command.Trouble.account_singleton]
        simp only [String.append_assoc]
      refine ⟨fun h => (by cases h), fun _ => ?_⟩
      simp only [conclude, hreport, Command.Trouble.preface, List.nil_append]
      rfl

end Station

/--
All ways of asking about a request, itself, as a ticket, through a client and in a file, tell
of the one list of the rules it breaks.
-/
structure Unanimous {α : Type} [Checked α] (kind : RuleSet) (x : α) (t : Ticket) : Prop where
  listed : ∀ vs, Checked.Lists x vs ↔ vs = Checked.violations x
  distinct : ((Checked.violations x).map Violation.rule).Nodup
  first : Checked.firstViolation? x = (Checked.violations x).head?
  valid : Checked.isValid x = true ↔ Checked.violations x = []
  passed : Checked.validate x = .ok () ↔ Checked.violations x = []
  /-- An error has the table of the kind and the list, which is then not empty. -/
  refused : ∀ e, Checked.validate x = .error e ↔
    Checked.violations x ≠ [] ∧ e = ⟨kind, Checked.violations x⟩
  ticket : t.ruleSet = kind ∧ t.violations = Checked.violations x
    ∧ t.firstViolation? = Checked.firstViolation? x ∧ t.isValid = Checked.isValid x
    ∧ t.validate = Checked.validate x
  /-- There are operations that carry the ticket, and a client refuses them for the list. -/
  submitted : (∃ op : Gateway.Operation, op.ticket = some t)
    ∧ ∀ (c : Gateway.Client) (op : Gateway.Operation) (n : Gateway.Network),
      op.ticket = some t → ∀ e, (c.perform op n).1 = .error (.invalid e) ↔
        Checked.violations x ≠ [] ∧ e = ⟨kind, Checked.violations x⟩
  /-- The command tells of the list for every file with a text that reads as the request. -/
  reported : ∀ (s : Station) (path text : String),
    s.disk.read ⟨path⟩ = .ok (Text.bytes text) → Ticket.ofText kind text = .ok t →
      s.Tells kind path (Checked.violations x)
        (Station.conclude (s.obey ["validate", kind.name, path]))

namespace Unanimous

theorem of_ticket
    {α : Type} [Checked α] {kind : RuleSet} {x : α} {t : Ticket}
    (hdistinct : Checked.Distinct α) (hkind : Checked.ruleSet α = kind)
    (hticket : t.ruleSet = kind ∧ t.violations = Checked.violations x
      ∧ t.firstViolation? = Checked.firstViolation? x ∧ t.isValid = Checked.isValid x
      ∧ t.validate = Checked.validate x)
    (hcarried : ∃ op : Gateway.Operation, op.ticket = some t) :
    Unanimous kind x t where
  listed _ := hdistinct.lists_iff
  distinct := hdistinct.nodup_violations x
  first := Checked.firstViolation?_eq_head? x
  valid := (Checked.violations_eq_nil_iff x).symm
  passed := Checked.validate_eq_ok_iff x
  refused e := by
    rw [Checked.validate_eq, hkind]
    by_cases hviolations : Checked.violations x = []
    · simp [hviolations]
    · simp [hviolations, eq_comm]
  ticket := hticket
  submitted := by
    refine ⟨hcarried, fun c op n hop e => ?_⟩
    rw [Gateway.Client.perform_eq_invalid_iff, Gateway.Operation.breaks_iff hop, hticket.1,
      hticket.2.1]
  reported s path text hfile htext := by
    rw [← hticket.2.1]
    exact Station.tells_of_read hfile htext

end Unanimous

/--
For every request of each of the five kinds, all ways of asking about it agree: the list of
its violations is the one that keeps the order of the table and holds what is broken; the
first violation, whether it is valid and how it is refused follow from the list; a ticket
with the request, a client that is to submit it and a file with its text give that list too.
-/
theorem verdicts_agree :
    (∀ r : Opening, Unanimous .createPosition r (.opening r))
      ∧ (∀ r : Closing, Unanimous .closePosition r (.closing r))
      ∧ (∀ r : Amendment, Unanimous .updatePosition r (.amendment r))
      ∧ (∀ r : Placement, Unanimous .createWorkingOrder r (.placement r))
      ∧ ∀ r : Revision, Unanimous .updateWorkingOrder r (.revision r) :=
  ⟨fun r => .of_ticket Opening.distinct rfl ⟨rfl, rfl, rfl, rfl, rfl⟩
      ⟨.createPosition r, rfl⟩,
    fun r => .of_ticket Closing.distinct rfl ⟨rfl, rfl, rfl, rfl, rfl⟩
      ⟨.closePosition r, rfl⟩,
    fun r => .of_ticket Amendment.distinct rfl ⟨rfl, rfl, rfl, rfl, rfl⟩
      ⟨.updatePosition "" r, rfl⟩,
    fun r => .of_ticket Placement.distinct rfl ⟨rfl, rfl, rfl, rfl, rfl⟩
      ⟨.createWorkingOrder r, rfl⟩,
    fun r => .of_ticket Revision.distinct rfl ⟨rfl, rfl, rfl, rfl, rfl⟩
      ⟨.updateWorkingOrder "" r, rfl⟩⟩

end DealDesk
