import Mathlib.Data.List.Forall2
import FieldFormula.Catalogue
import FieldFormula.Proofs.Name
import FieldFormula.Proofs.Registry

/-! Lowercasing. A lowercase form is its own lowercase form, which the table of case runs decides: no
run holds what another one yields. ASCII letters may change their case without a change of the
lowercase form, so in a registry of lowercase names the case of a name does not matter. -/

namespace FieldFormula

namespace Text

/-- A character that lowercasing leaves alone, wherever it stands. -/
def Settled (c : Char) : Prop :=
  c ≠ '\u03a3' ∧ lowerChar c = [c]

instance instDecidableSettled (c : Char) : Decidable (Settled c) :=
  inferInstanceAs (Decidable (_ ∧ _))

theorem lowerAfter_of_settled {before text : List Char} (settled : ∀ c ∈ text, Settled c) :
    lowerAfter before text = text := by
  induction text generalizing before with
  | nil => rfl
  | cons c rest ih =>
    rw [List.forall_mem_cons] at settled
    rw [lowerAfter, lowerBetween, if_neg settled.1.1, settled.1.2, ih settled.2]
    rfl

/-! Sets of code points as the bits of a number, which makes two of them quick to compare. -/

/-- The set of `start`, `start + stride`, ..., `count` of them. -/
def stepBits (start stride : Nat) : Nat → Nat
  | 0 => 0
  | count + 1 => stepBits start stride count ||| 1 <<< (start + stride * count)

def CaseRun.count (run : CaseRun) : Nat :=
  (run.2.1 - run.1) / run.2.2.1 + 1

/-- All that runs list, if they are made to begin at `start`. -/
def runBits (start : CaseRun → Nat) : List CaseRun → Nat
  | [] => 0
  | run :: runs => stepBits (start run) run.2.2.1 run.count ||| runBits start runs

theorem testBit_stepBits {start stride count index : Nat} (inside : index < count) :
    (stepBits start stride count).testBit (start + stride * index) = true := by
  induction count with
  | zero => omega
  | succ count ih =>
    rw [stepBits, Nat.testBit_or, Bool.or_eq_true]
    rcases Nat.lt_succ_iff_lt_or_eq.1 inside with earlier | rfl
    · exact .inl (ih earlier)
    · exact .inr (by simp [Nat.testBit_shiftLeft])

theorem testBit_runBits (start : CaseRun → Nat) {runs : List CaseRun} {run : CaseRun} {index : Nat}
    (member : run ∈ runs) (inside : index < run.count) :
    (runBits start runs).testBit (start run + run.2.2.1 * index) = true := by
  induction runs with
  | nil => cases member
  | cons first rest ih =>
    rw [runBits, Nat.testBit_or, Bool.or_eq_true]
    rcases List.mem_cons.1 member with rfl | later
    · exact .inl (testBit_stepBits inside)
    · exact .inr (ih later)

/-- No code point that a run lists is a lowercase form. -/
theorem caseRuns_apart : runBits (·.1) caseRuns &&& runBits (·.2.2.2) caseRuns = 0 := by
  decide +kernel

theorem CaseRun.covers_iff {code first last stride target : Nat} :
    CaseRun.covers code (first, last, stride, target) = true ↔
      first ≤ code ∧ code ≤ last ∧ (code - first) % stride = 0 := by
  simp [CaseRun.covers, and_assoc]

theorem CaseRun.exists_index {code first last stride target : Nat}
    (covered : CaseRun.covers code (first, last, stride, target) = true) :
    ∃ index, index < CaseRun.count (first, last, stride, target) ∧
      code = first + stride * index := by
  obtain ⟨least, most, inStep⟩ := CaseRun.covers_iff.1 covered
  refine ⟨(code - first) / stride, ?_, ?_⟩
  · exact Nat.lt_succ_of_le (Nat.div_le_div_right (Nat.sub_le_sub_right most first))
  · have divided := Nat.div_add_mod (code - first) stride
    omega

theorem not_covers_target {code first last stride target : Nat} {other : CaseRun}
    (member : (first, last, stride, target) ∈ caseRuns)
    (covered : CaseRun.covers code (first, last, stride, target) = true)
    (listed : other ∈ caseRuns) : CaseRun.covers (target + (code - first)) other = false := by
  refine Bool.eq_false_iff.2 fun again => ?_
  obtain ⟨otherFirst, otherLast, otherStride, otherTarget⟩ := other
  obtain ⟨index, inside, rfl⟩ := CaseRun.exists_index covered
  obtain ⟨otherIndex, otherInside, same⟩ := CaseRun.exists_index again
  have image := testBit_runBits (·.2.2.2) member inside
  have source := testBit_runBits (·.1) listed otherInside
  simp only at image source
  rw [← same, Nat.add_sub_cancel_left] at source
  have both := congrArg (Nat.testBit · (target + stride * index)) caseRuns_apart
  simp only [Nat.testBit_and, source, image, Nat.zero_testBit] at both
  cases both

theorem lowerCode_of_not_covered {code : Nat}
    (uncovered : ∀ run ∈ caseRuns, CaseRun.covers code run = false) : lowerCode code = code := by
  have none : caseRuns.find? (CaseRun.covers code) = none :=
    List.find?_eq_none.2 fun run member => by simp [uncovered run member]
  rw [lowerCode, none]

theorem lowerCode_lowerCode (code : Nat) : lowerCode (lowerCode code) = lowerCode code := by
  cases found : caseRuns.find? (CaseRun.covers code) with
  | none => rw [show lowerCode code = code by rw [lowerCode, found], lowerCode, found]
  | some run =>
    obtain ⟨first, last, stride, target⟩ := run
    have image : lowerCode code = target + (code - first) := by rw [lowerCode, found]
    rw [image]
    exact lowerCode_of_not_covered fun other listed =>
      not_covers_target (List.mem_of_find?_eq_some found) (List.find?_some found) listed

theorem lowerCode_ne_dottedI {code : Nat} (other : code ≠ 0x130) : lowerCode code ≠ 0x130 := by
  have targets : ∀ run ∈ caseRuns, run.2.2.2 + (run.2.1 - run.1) < 0x130 ∨ 0x130 < run.2.2.2 := by
    decide +kernel
  cases found : caseRuns.find? (CaseRun.covers code) with
  | none => rwa [lowerCode, found]
  | some run =>
    obtain ⟨first, last, stride, target⟩ := run
    have target := targets _ (List.mem_of_find?_eq_some found)
    obtain ⟨least, most, _⟩ := CaseRun.covers_iff.1 (List.find?_some found)
    rw [lowerCode, found]
    simp only at target ⊢
    omega

theorem lowerCode_ne_sigma (code : Nat) : lowerCode code ≠ 0x3a3 := by
  intro same
  have again := lowerCode_lowerCode code
  rw [same] at again
  exact absurd again (by decide +kernel)

theorem toNat_ofNat_cases (code : Nat) :
    (Char.ofNat code).toNat = code ∨ Char.ofNat code = '\x00' := by
  by_cases valid : code.isValidChar
  · exact .inl (congrArg Char.toNat (dif_pos valid : Char.ofNat code = _))
  · exact .inr (dif_neg valid : Char.ofNat code = _)

theorem toNat_toLower_lt {c : Char} (ascii : c.toNat < 128) : c.toLower.toNat < 128 :=
  of_ascii ascii (by decide)

theorem settled_of_ascii {c : Char} (ascii : c.toNat < 128) (lower : ¬ Capital c) : Settled c := by
  refine ⟨?_, ?_⟩
  · rintro rfl
    exact absurd ascii (by decide)
  · rw [lowerChar, if_pos ascii, (toLower_of_ascii ascii).2 lower]

/-- What lies past ASCII and has one lowercase form gets a settled one. -/
theorem settled_lowerCode {c : Char} (high : 0x80 ≤ c.toNat) (other : c ≠ '\u0130') :
    Settled (Char.ofNat (lowerCode c.toNat)) := by
  rcases toNat_ofNat_cases (lowerCode c.toNat) with kept | invalid
  · have image : ∀ d : Char, d.toNat = lowerCode c.toNat → Settled d := by
      intro d same
      by_cases ascii : d.toNat < 128
      · refine settled_of_ascii ascii fun capital => ?_
        have large := lt_lowerCode high
        obtain ⟨_, most⟩ := capital
        omega
      · have noDot : d ≠ '\u0130' := by
          rintro rfl
          refine lowerCode_ne_dottedI (fun dotted => other ?_) same.symm
          exact Char.toNat_inj.1 dotted
        refine ⟨?_, ?_⟩
        · rintro rfl
          exact lowerCode_ne_sigma _ same.symm
        · rw [lowerChar, if_neg ascii, if_neg noDot, same, lowerCode_lowerCode, ← same,
            Char.ofNat_toNat]
    exact image _ kept
  · rw [invalid]
    decide

theorem settled_of_mem_lowerBetween {before after : List Char} {c d : Char}
    (member : d ∈ lowerBetween before c after) : Settled d := by
  unfold lowerBetween lowerChar at member
  split at member
  · split at member <;> cases List.mem_singleton.1 member <;> decide +kernel
  split at member
  · next ascii =>
    cases List.mem_singleton.1 member
    refine settled_of_ascii ?_ (toLower_of_ascii ascii).1
    exact toNat_toLower_lt ascii
  split at member
  · rcases List.mem_cons.1 member with rfl | member
    · decide +kernel
    · cases List.mem_singleton.1 member
      decide +kernel
  · next high other =>
    cases List.mem_singleton.1 member
    exact settled_lowerCode (Nat.not_lt.1 high) other

theorem settled_of_mem_lowerAfter {before text : List Char} {c : Char}
    (member : c ∈ lowerAfter before text) : Settled c := by
  induction text generalizing before with
  | nil => cases member
  | cons d rest ih =>
    rcases List.mem_append.1 member with first | others
    · exact settled_of_mem_lowerBetween first
    · exact ih others

/-- Lowercasing twice is lowercasing once. -/
theorem lowercase_lowercase (text : String) : lowercase (lowercase text) = lowercase text := by
  have stays : lowerAfter [] (lowerAfter [] text.toList) = lowerAfter [] text.toList :=
    lowerAfter_of_settled fun _ => settled_of_mem_lowerAfter
  unfold lowercase
  rw [String.toList_ofList, stays]

/-! The case of ASCII letters. -/

/-- Texts that differ at most in the case of ASCII letters. -/
def SameLetters : List Char → List Char → Prop :=
  List.Forall₂ fun c d => c.toLower = d.toLower

theorem toLower_eq_self {c : Char} (lower : ¬ Capital c) : c.toLower = c := by
  refine dif_neg fun capital => lower ⟨?_, ?_⟩
  · exact UInt32.le_iff_toNat_le.1 (capital.1 : 'A'.val ≤ c.val)
  · exact UInt32.le_iff_toNat_le.1 (capital.2 : c.val ≤ 'Z'.val)

theorem toNat_toLower_of_capital {c : Char} (capital : Capital c) :
    c.toLower.toNat = c.toNat + 32 := by
  have ascii : c.toNat < 128 := Nat.lt_of_le_of_lt capital.2 (by decide)
  revert capital
  exact of_ascii ascii (by decide)

/-- Characters that differ at most in ASCII case are alike in all that is alike for a capital and
its lowercase form. -/
theorem eq_of_toLower_eq {α : Type} (f : Char → α) {c d : Char}
    (alike : ∀ e, Capital e → f e.toLower = f e) (same : c.toLower = d.toLower) : f c = f d := by
  have lowered (e : Char) : f e.toLower = f e := by
    by_cases capital : Capital e
    · exact alike e capital
    · rw [toLower_eq_self capital]
  rw [← lowered c, same, lowered d]

def IsLetter (code : Nat) : Prop :=
  (0x41 ≤ code ∧ code ≤ 0x5A) ∨ (0x61 ≤ code ∧ code ≤ 0x7A)

theorem Capital.isLetter {c : Char} (capital : Capital c) : IsLetter c.toNat :=
  .inl capital

theorem Capital.isLetter_toLower {c : Char} (capital : Capital c) : IsLetter c.toLower.toNat := by
  rw [toNat_toLower_of_capital capital]
  obtain ⟨least, most⟩ := capital
  exact .inr ⟨by omega, by omega⟩

theorem isCased_of_isLetter {c : Char} (letter : IsLetter c.toNat) : isCased c = true := by
  refine (CodeRanges.contains_iff _ _).2 ?_
  rcases letter with upper | lower
  · exact ⟨(0x41, 0x5A), by simp [casedRanges], upper⟩
  · exact ⟨(0x61, 0x7A), by simp [casedRanges], lower⟩

theorem not_isCaseIgnorable_of_isLetter {c : Char} (letter : IsLetter c.toNat) :
    isCaseIgnorable c = false := by
  have outside : ∀ range ∈ caseIgnorableRanges,
      range.2 < 0x41 ∨ 0x7A < range.1 ∨ (0x5A < range.1 ∧ range.2 < 0x61) := by
    decide +kernel
  refine Bool.eq_false_iff.2 fun ignorable => ?_
  obtain ⟨range, member, least, most⟩ := (CodeRanges.contains_iff _ _).1 ignorable
  have apart := outside range member
  unfold IsLetter at letter
  omega

theorem meetsCased_congr {first second : List Char} (same : SameLetters first second) :
    meetsCased first = meetsCased second := by
  induction same with
  | nil => rfl
  | @cons c d first second sameHead _ ih =>
    have ignorable : isCaseIgnorable c = isCaseIgnorable d := by
      refine eq_of_toLower_eq isCaseIgnorable (fun e capital => ?_) sameHead
      rw [not_isCaseIgnorable_of_isLetter capital.isLetter,
        not_isCaseIgnorable_of_isLetter capital.isLetter_toLower]
    have cased : isCased c = isCased d := by
      refine eq_of_toLower_eq isCased (fun e capital => ?_) sameHead
      rw [isCased_of_isLetter capital.isLetter, isCased_of_isLetter capital.isLetter_toLower]
    unfold meetsCased at ih ⊢
    rw [List.dropWhile_cons, List.dropWhile_cons, ignorable]
    by_cases skipped : isCaseIgnorable d = true
    · rw [if_pos skipped, if_pos skipped]
      exact ih
    · rw [if_neg skipped, if_neg skipped]
      exact cased

theorem lowerChar_of_capital {c : Char} (capital : Capital c) :
    lowerChar c.toLower = lowerChar c := by
  have ascii : c.toNat < 128 := Nat.lt_of_le_of_lt capital.2 (by decide)
  have lower := (toLower_of_ascii ascii).1
  rw [lowerChar, lowerChar, if_pos ascii, if_pos (toNat_toLower_lt ascii), toLower_eq_self lower]

theorem lowerBetween_congr {before beforeOther after afterOther : List Char} {c d : Char}
    (sameBefore : SameLetters before beforeOther) (same : c.toLower = d.toLower)
    (sameAfter : SameLetters after afterOther) :
    lowerBetween before c after = lowerBetween beforeOther d afterOther := by
  have sigma : (c = '\u03a3') = (d = '\u03a3') := by
    refine eq_of_toLower_eq (· = '\u03a3') (fun e capital => ?_) same
    have apart {e : Char} (letter : IsLetter e.toNat) : e ≠ '\u03a3' := by
      rintro rfl
      exact absurd letter (by unfold IsLetter; decide)
    simp only [apart capital.isLetter, apart capital.isLetter_toLower]
  have lower : lowerChar c = lowerChar d :=
    eq_of_toLower_eq lowerChar (fun _ => lowerChar_of_capital) same
  simp only [lowerBetween, sigma, lower, meetsCased_congr sameBefore, meetsCased_congr sameAfter]

theorem lowerAfter_congr {before beforeOther text other : List Char}
    (sameBefore : SameLetters before beforeOther) (same : SameLetters text other) :
    lowerAfter before text = lowerAfter beforeOther other := by
  induction same generalizing before beforeOther with
  | nil => rfl
  | cons sameHead sameRest ih =>
    rw [lowerAfter, lowerAfter, lowerBetween_congr sameBefore sameHead sameRest,
      ih (.cons sameHead sameBefore)]

theorem lowercase_congr {text other : String} (same : SameLetters text.toList other.toList) :
    lowercase text = lowercase other := by
  rw [lowercase, lowercase, lowerAfter_congr .nil same]

end Text

namespace Registry

/-- Every function has a name in lowercase, as functions of names in any case are given. -/
def Lowercased (registry : Registry) : Prop :=
  ∀ entry ∈ registry.functions.entries, ∃ name, entry.1 = Text.lowercase name

/-- What is found under the exact spelling of a name is found in lowercase too. -/
theorem Lowercased.get?_lowercase {registry : Registry} (lowercased : registry.Lowercased)
    (name : String) : registry.get? (Text.lowercase name) = registry.get? name := by
  unfold get?
  rw [Text.lowercase_lowercase]
  cases exact : registry.functions.get? name with
  | none => cases registry.functions.get? (Text.lowercase name) <;> rfl
  | some definition =>
    obtain ⟨origin, spelled⟩ := lowercased _ (Table.mem_of_get? exact)
    simp only at spelled
    have stays : Text.lowercase name = name := by rw [spelled, Text.lowercase_lowercase]
    rw [stays, exact]

theorem lowercased_ofDefinitions {definitions : List Definition}
    (lowercased : ∀ definition ∈ definitions, ∃ name, definition.name = Text.lowercase name) :
    (ofDefinitions definitions).Lowercased := by
  intro entry member
  obtain ⟨name, spelled⟩ := lowercased _ (mem_of_mem_ofDefinitions member)
  exact ⟨name, (Registry.named _ entry member).trans spelled⟩

theorem standard_lowercased : Registry.standard.Lowercased := by
  apply lowercased_ofDefinitions
  have lowercase : ∀ definition ∈ Catalogue.definitions,
      definition.name = Text.lowercase definition.name := by
    decide +kernel
  exact fun definition member => ⟨_, lowercase definition member⟩

end Registry

end FieldFormula
