import FixedWidth.Text.LetterCase

/-!
# Output formats

Of the formats that have a name, only console text has a formatter.
-/

namespace FixedWidth

inductive Format where
  | console
  | html
  | json
deriving DecidableEq

namespace Format

def name : Format → String
  | .console => "console"
  | .html => "html"
  | .json => "json"

/-- The name of the format as a choice among alternatives. -/
def label : Format → String
  | .console => "Console"
  | .html => "Html"
  | .json => "Json"

/-- The names by which the formats are written. -/
def names : List String := ["console", "html", "json"]

/-- The format of exactly this name. -/
def ofExactName? : String → Option Format
  | "console" => some .console
  | "html" => some .html
  | "json" => some .json
  | _ => none

/-- The format of a name in any case.  HTML has a second name. -/
def ofName? (s : String) : Option Format :=
  match Text.lower s with
  | "xhtml" => some .html
  | name => ofExactName? name

@[simp] theorem ofExactName?_name (f : Format) : ofExactName? f.name = some f := by
  cases f <;> rfl

end Format

end FixedWidth
