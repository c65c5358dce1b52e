import SemanticLayer.Manifest.Normalize
import SemanticLayer.Manifest.Parse
import SemanticLayer.Validation.Validator

/-!
# Loading a manifest

Loading reads a manifest, brings it to its normal form and checks that form. It ends at the first
stage that fails, and reports every error of that stage.
-/

namespace SemanticLayer

/-- A reason why a manifest was not loaded. -/
inductive LoadError where
  | parse      (error : ParseError)
  | normalize  (error : NormalizeError)
  | validation (issue : Issue)

namespace LoadError

/-- The wording of an error, where it has one. -/
def message? : LoadError → Option String
  | .parse e      => e.message?.map ("Parse error: " ++ ·)
  | .normalize e  => some ("Transform error: " ++ e.message)
  | .validation i => some ("Validation error: " ++ i.describe)

end LoadError

/-- A manifest in normal form with the issues that do not block it. -/
structure Loaded where
  manifest : Manifest
  issues   : List Issue

namespace Manifest

/-- Load a manifest that was read, or pass on why it was not. -/
def loadParsed (parsed : Except ParseError Manifest) : Except (List LoadError) Loaded :=
  match parsed with
  | .error e => .error [.parse e]
  | .ok m    =>
    match m.normalize with
    | .error e => .error [.normalize e]
    | .ok m    =>
      match Validator.standard.checkedValidate m with
      | .ok issues    => .ok ⟨m, issues⟩
      | .error issues => .error ((issues.filter (·.isBlocking)).map .validation)

/-- Load a manifest. What is said of a text that is no document is given by `wording`. -/
def load (text : String) (wording : String → Option String := fun _ => none) :
    Except (List LoadError) Loaded :=
  loadParsed (parse text wording)

end Manifest

end SemanticLayer
