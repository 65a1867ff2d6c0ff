import FieldFormula.Operator
import FieldFormula.Token.Spelling

/-! Names and keywords. A name in lowercase that is an ASCII identifier is its own lowercase form, so
it is a keyword only if it is spelled like one. -/

namespace FieldFormula

namespace Text

def Capital (c : Char) : Prop :=
  0x41 ≤ c.toNat ∧ c.toNat ≤ 0x5A

instance instDecidableCapital (c : Char) : Decidable (Capital c) :=
  inferInstanceAs (Decidable (_ ∧ _))

/-- What holds of the first 128 code points holds of every ASCII character. -/
@[elab_as_elim]
theorem of_ascii {motive : Char → Prop} {c : Char} (ascii : c.toNat < 128)
    (all : ∀ code : Fin 128, motive (Char.ofNat code)) : motive c := by
  have found := all ⟨c.toNat, ascii⟩
  rwa [Char.ofNat_toNat] at found

theorem toLower_of_ascii {c : Char} (ascii : c.toNat < 128) :
    ¬ Capital c.toLower ∧ (¬ Capital c → c.toLower = c) :=
  of_ascii ascii (by decide)

/-- No code point past ASCII has a capital as its lowercase form. -/
theorem lt_lowerCode {code : Nat} (high : 0x80 ≤ code) : 0x5A < lowerCode code := by
  have targets : ∀ run ∈ caseRuns, 0x5A < run.2.2.2 := by decide +kernel
  unfold lowerCode
  split
  · next found =>
    have target := targets _ (List.mem_of_find?_eq_some found)
    exact Nat.lt_of_lt_of_le target (Nat.le_add_right _ _)
  · exact Nat.lt_of_lt_of_le (by decide) high

theorem not_capital_ofNat {code : Nat} (large : 0x5A < code) : ¬ Capital (Char.ofNat code) := by
  have kept : (Char.ofNat code).toNat = code ∨ (Char.ofNat code).toNat = 0 := by
    by_cases valid : code.isValidChar
    · exact .inl (congrArg Char.toNat (dif_pos valid : Char.ofNat code = _))
    · exact .inr (congrArg Char.toNat (dif_neg valid : Char.ofNat code = _))
  rintro ⟨least, most⟩
  omega

theorem not_capital_of_mem_lowerBetween {before after : List Char} {c d : Char}
    (member : d ∈ lowerBetween before c after) : ¬ Capital d := by
  unfold lowerBetween lowerChar at member
  split at member
  · split at member <;> cases List.mem_singleton.1 member <;> decide
  split at member
  · next ascii =>
    cases List.mem_singleton.1 member
    exact (toLower_of_ascii ascii).1
  split at member
  · rcases List.mem_cons.1 member with rfl | member
    · decide
    · cases List.mem_singleton.1 member
      decide
  · next high _ =>
    cases List.mem_singleton.1 member
    exact not_capital_ofNat (lt_lowerCode (Nat.not_lt.1 high))

theorem not_capital_of_mem_lowerAfter {before text : List Char} {c : Char}
    (member : c ∈ lowerAfter before text) : ¬ Capital c := by
  induction text generalizing before with
  | nil => cases member
  | cons d rest ih =>
    rcases List.mem_append.1 member with first | others
    · exact not_capital_of_mem_lowerBetween first
    · exact ih others

/-- An ASCII text without capitals stays as it is. -/
theorem lowerAfter_eq_self {before text : List Char} (ascii : ∀ c ∈ text, c.toNat < 128)
    (lower : ∀ c ∈ text, ¬ Capital c) : lowerAfter before text = text := by
  induction text generalizing before with
  | nil => rfl
  | cons c rest ih =>
    have small := ascii c List.mem_cons_self
    have noSigma : c ≠ '\u03a3' := by
      rintro rfl
      exact absurd small (by decide)
    rw [lowerAfter, lowerBetween, if_neg noSigma, lowerChar, if_pos small,
      (toLower_of_ascii small).2 (lower c List.mem_cons_self),
      ih (fun d member => ascii d (List.mem_cons_of_mem _ member))
        fun d member => lower d (List.mem_cons_of_mem _ member)]
    rfl

end Text

namespace Token

def isWord (c : Char) : Bool :=
  c.isAlphanum || c == '_'

theorem toNat_lt_of_isWord {c : Char} (word : isWord c = true) : c.toNat < 128 := by
  have ascii {last : Char} (below : c.val ≤ last.val) (small : last.toNat < 128) : c.toNat < 128 :=
    Nat.lt_of_le_of_lt (UInt32.le_iff_toNat_le.1 below) small
  rcases Bool.or_eq_true_iff.1 word with alphanumeric | underscore
  · rcases Bool.or_eq_true_iff.1 alphanumeric with letter | digit
    · rcases Bool.or_eq_true_iff.1 letter with upper | lower
      · exact ascii (of_decide_eq_true upper).2 (by decide)
      · exact ascii (of_decide_eq_true (Bool.and_eq_true_iff.1 lower).2) (by decide)
    · exact ascii (of_decide_eq_true (Bool.and_eq_true_iff.1 digit).2) (by decide)
  · rw [beq_iff_eq.1 underscore]
    decide

def isIdentifier (name : List Char) : Bool :=
  name.head?.any (fun c => !c.isDigit) && name.all isWord

theorem isWord_of_isIdentifier {name : List Char} (valid : isIdentifier name = true) :
    ∀ c ∈ name, isWord c = true :=
  List.all_eq_true.1 (Bool.and_eq_true_iff.1 valid).2

/-- The words that are no identifiers, in whatever case they are spelled. -/
def keywords : List String :=
  ["true", "false", "field", "lookup", "field_by_id"]

theorem ofName_of_not_keyword {name : String} (other : Text.lowercase name ∉ keywords) :
    ofName name.toList = .identifier name := by
  have differs {keyword : String} (member : keyword ∈ keywords) :
      Text.lowerAfter [] name.toList ≠ keyword.toList := by
    intro same
    rw [Text.lowercase, same, String.ofList_toList] at other
    exact other member
  simp only [ofName, differs (by simp [keywords] : "true" ∈ _),
    differs (by simp [keywords] : "false" ∈ _), differs (by simp [keywords] : "field" ∈ _),
    differs (by simp [keywords] : "lookup" ∈ _), differs (by simp [keywords] : "field_by_id" ∈ _),
    if_false, String.ofList_toList]

/-- A function can be called by its name: sources have spelled it so, or it is a name in lowercase. -/
def Callable (function : String) : Prop :=
  ofName function.toList = .identifier function ∨ ∃ name, function = Text.lowercase name

/-- An ASCII identifier that is no keyword is read as itself, if it can be called at all. -/
theorem Callable.ofName_eq {function : String} (callable : Callable function)
    (valid : isIdentifier function.toList = true) (other : function ∉ keywords) :
    ofName function.toList = .identifier function := by
  rcases callable with spelled | ⟨name, rfl⟩
  · exact spelled
  · have stays : Text.lowercase (Text.lowercase name) = Text.lowercase name := by
      have ascii := fun c member => toNat_lt_of_isWord (isWord_of_isIdentifier valid c member)
      rw [Text.lowercase, Text.lowerAfter_eq_self ascii, String.ofList_toList]
      intro c member
      rw [Text.lowercase, String.toList_ofList] at member
      exact Text.not_capital_of_mem_lowerAfter member
    exact ofName_of_not_keyword (stays.symm ▸ other)

theorem ofName_function {op : Operator} {function : String}
    (stands : op.function? = some function) : ofName function.toList = .identifier function := by
  cases op <;> cases stands <;> decide

end Token

end FieldFormula
