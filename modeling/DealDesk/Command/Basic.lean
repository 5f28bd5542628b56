import DealDesk.Rules.Basic
import DealDesk.Disk.Path

/-!
# Commands

What the program is asked for by the words that follow its name.

**Results.** The words that ask for a check name the rule table and the file.
-/

namespace DealDesk

/-- What the program can be asked for. -/
inductive Command where
  | help
  | generateKey
  | validate (kind : RuleSet) (path : Disk.Path)
  | rules (kinds : List RuleSet)
  | login
  | logout
  | clearCache
  | positions
  | orders
  | confirm (reference : String)
deriving DecidableEq

namespace Command

/-- Why words ask for nothing. -/
inductive Fault where
  | unknown (words : List String)
  | unknownRuleSet (name : String)
deriving DecidableEq

namespace Fault

def message : Fault → String
  | .unknown words => "Unknown command: " ++ String.intercalate " " words
  | .unknownRuleSet name => RuleSet.unknownName name

end Fault

/-- The table that a name stands for. -/
def ruleSet (name : String) : Except Fault RuleSet :=
  match RuleSet.ofName? name with
  | none => .error (.unknownRuleSet name)
  | some kind => .ok kind

/-- What words ask for. -/
def ofWords : List String → Except Fault Command
  | [] => .ok .help
  | ["help"] => .ok .help
  | ["--help"] => .ok .help
  | ["-h"] => .ok .help
  | ["generate-key"] => .ok .generateKey
  | ["validate", name, path] => (ruleSet name).map fun kind => .validate kind ⟨path⟩
  | ["rules"] => .ok (.rules RuleSet.all)
  | ["rules", name] => (ruleSet name).map fun kind => .rules [kind]
  | ["login"] => .ok .login
  | ["logout"] => .ok .logout
  | ["clear-cache"] => .ok .clearCache
  | ["positions"] => .ok .positions
  | ["orders"] => .ok .orders
  | ["confirm", reference] => .ok (.confirm reference)
  | words => .error (.unknown words)

/-- What the program can be asked for, in words. -/
def usage : List String :=
  ["Usage: igtrade <command> [args]",
    "",
    "Session:",
    "  login                          Authenticate (or reuse the cached session)",
    "  logout                         End the session and clear the cache",
    "  clear-cache                    Forget the cached session without logging out",
    "  generate-key                   Print a new base64 key for IG_CACHE_KEY",
    "",
    "Account:",
    "  positions                      List open positions",
    "  orders                         List working orders",
    "  confirm <dealReference>        Show the outcome of a deal",
    "",
    "Offline:",
    "  validate <rule-set> <file>     Check a JSON request body against its rules",
    "  rules [rule-set]               List the rules of one or all rule-sets",
    "",
    "Rule-sets: create-position, close-position, update-position,",
    "           create-working-order, update-working-order",
    "",
    "Environment:",
    "  IG_API_KEY, IG_PASSWORD, IG_IDENTIFIER, IG_BASE_URL, IG_CACHE_KEY,",
    "  IGTRADE_LOG_DIR, RUST_LOG"]

theorem ofWords_validate (kind : RuleSet) (path : String) :
    ofWords ["validate", kind.name, path] = .ok (.validate kind ⟨path⟩) := by
  simp [ofWords, ruleSet, RuleSet.ofName?_name, Except.map]

end Command
end DealDesk
