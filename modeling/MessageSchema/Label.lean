import MessageSchema.Error

/-! Field cardinality: every field has exactly one of three labels. -/
namespace MessageSchema

inductive Label where
  | required | optional | repeated
deriving DecidableEq, Repr

namespace Label

def all : List Label := [required, optional, repeated]

def keyword : Label → String
  | required => "required"
  | optional => "optional"
  | repeated => "repeated"

/-- The label that a text spells, if it spells one. -/
def ofText? (text : String) : Option Label :=
  Keyword.find? "label_" keyword all text

/-- The label that a text spells. Any other text is refused as it stands. -/
def ofText (text : String) : Except Error Label :=
  match ofText? text with
  | some label => .ok label
  | none => .error (.invalidLabel text)

theorem ofText_eq_ok_iff {text : String} {label : Label} :
    ofText text = .ok label ↔ ofText? text = some label := by
  cases read : ofText? text <;> simp [ofText, read]

theorem ofText_eq_error_iff {text : String} {error : Error} :
    ofText text = .error error ↔ ofText? text = none ∧ error = .invalidLabel text := by
  cases read : ofText? text <;> simp [ofText, read, eq_comm]

theorem toOption_ofText (text : String) : (ofText text).toOption = ofText? text := by
  cases read : ofText? text <;> simp [ofText, read, Except.toOption]

theorem mem_all (label : Label) : label ∈ all := by
  cases label <;> decide

theorem ofText?_keyword (label : Label) : ofText? label.keyword = some label := by
  cases label <;> decide

theorem keyword_injective {a b : Label} (same : a.keyword = b.keyword) : a = b := by
  revert same
  cases a <;> cases b <;> decide

end Label

end MessageSchema
