import Schemata.Proofs.WellFormed

/-!
# The grammar of names, character by character

Whether a text is a name is decided on its UTF-8 bytes, while the grammar speaks of characters. The
two agree on every text. An ASCII character is its own only byte, and the bytes of any other
character begin with one beyond ASCII, which no name contains. So a character that may stand in a
name is a byte that may, and a character that may not spoils the scan with its first byte, wherever
it stands.

The reserved prefix is looked at before the grammar: a text that begins with it is refused for that
reason, however it goes on.

## Main definitions

* `Schemata.Name.IsStart`, `Schemata.Name.IsContinue`: the characters of a name.
* `Schemata.Name.FollowsGrammar`: the grammar of names, on characters.

## Main results

* `Schemata.Name.isGrammatical_iff`: the scan of the bytes decides the grammar.
* `Schemata.Name.validate_exact`: which names are accepted, and why the others are refused.
-/

namespace Schemata.Name

/-- An underscore or an ASCII letter. -/
def IsStart (c : Char) : Prop :=
  c = '_' ∨ ('A' ≤ c ∧ c ≤ 'Z') ∨ ('a' ≤ c ∧ c ≤ 'z')

/-- A character that may begin a name, or an ASCII digit. -/
def IsContinue (c : Char) : Prop :=
  IsStart c ∨ ('0' ≤ c ∧ c ≤ '9')

/-- The text begins with an underscore or a letter, and goes on with underscores, letters and
digits. -/
def FollowsGrammar (name : String) : Prop :=
  ∃ first rest, name.toList = first :: rest ∧ IsStart first ∧ ∀ c ∈ rest, IsContinue c

/-! ### Characters and their bytes -/

theorem isStart_iff {c : Char} :
    IsStart c ↔ c.toNat = 0x5F ∨ (0x41 ≤ c.toNat ∧ c.toNat ≤ 0x5A) ∨
      (0x61 ≤ c.toNat ∧ c.toNat ≤ 0x7A) := by
  rw [IsStart, ← Char.toNat_inj]
  exact Iff.rfl

theorem isContinue_iff {c : Char} :
    IsContinue c ↔ IsStart c ∨ (0x30 ≤ c.toNat ∧ c.toNat ≤ 0x39) :=
  Iff.rfl

theorem isStartByte_iff {b : UInt8} :
    isStartByte b = true ↔ b.toNat = 0x5F ∨ (0x41 ≤ b.toNat ∧ b.toNat ≤ 0x5A) ∨
      (0x61 ≤ b.toNat ∧ b.toNat ≤ 0x7A) := by
  simp [isStartByte, UInt8.le_iff_toNat_le, ← UInt8.toNat_inj, or_assoc]

theorem isContinueByte_iff {b : UInt8} :
    isContinueByte b = true ↔ isStartByte b = true ∨ (0x30 ≤ b.toNat ∧ b.toNat ≤ 0x39) := by
  simp [isContinueByte, UInt8.le_iff_toNat_le]

/-- No byte beyond ASCII stands in a name. -/
theorem isContinueByte_of_beyond {b : UInt8} (h : 128 ≤ b.toNat) : isContinueByte b = false := by
  rw [← Bool.not_eq_true, isContinueByte_iff, isStartByte_iff]
  omega

theorem isStartByte_of_beyond {b : UInt8} (h : 128 ≤ b.toNat) : isStartByte b = false := by
  rw [← Bool.not_eq_true, isStartByte_iff]
  omega

/-- An ASCII character is its only byte. The bytes of any other begin with one beyond ASCII. -/
theorem utf8EncodeChar_cases (c : Char) :
    (∃ b, String.utf8EncodeChar c = [b] ∧ b.toNat = c.toNat) ∨
      128 ≤ c.toNat ∧ ∃ b bytes, String.utf8EncodeChar c = b :: bytes ∧ 128 ≤ b.toNat := by
  have hcode : c.val.toNat = c.toNat := rfl
  have hbyte (n : Nat) : (UInt8.ofNat n).toNat = n % 256 := UInt8.toNat_ofNat'
  rw [String.utf8EncodeChar, hcode]
  -- One case for each number of bytes; what stands before the code in the first byte marks it.
  split
  · exact .inl ⟨_, rfl, by rw [hbyte]; omega⟩
  · refine .inr ⟨by omega, ?_⟩
    split
    · exact ⟨_, _, rfl, by rw [hbyte]; omega⟩
    · split
      · exact ⟨_, _, rfl, by rw [hbyte]; omega⟩
      · exact ⟨_, _, rfl, by rw [hbyte]; omega⟩

/-- All bytes of a character may stand in a name exactly if the character may. -/
theorem all_isContinueByte_iff {c : Char} :
    (String.utf8EncodeChar c).all isContinueByte = true ↔ IsContinue c := by
  rcases utf8EncodeChar_cases c with ⟨b, hbytes, hcode⟩ | ⟨hbeyond, b, bytes, hbytes, hbyte⟩
  · rw [hbytes, List.all_cons, List.all_nil, Bool.and_true, isContinueByte_iff, isStartByte_iff,
      isContinue_iff, isStart_iff, hcode]
  · rw [hbytes, List.all_cons, isContinueByte_of_beyond hbyte, Bool.false_and, isContinue_iff,
      isStart_iff]
    exact iff_of_false Bool.false_ne_true (by omega)

/-- The first byte of a character may begin a name exactly if the character may, and no byte of it
follows then. -/
theorem isStartByte_utf8EncodeChar (c : Char) :
    ∃ b bytes, String.utf8EncodeChar c = b :: bytes ∧ (isStartByte b = true ↔ IsStart c) ∧
      (isStartByte b = true → bytes = []) := by
  rcases utf8EncodeChar_cases c with ⟨b, hbytes, hcode⟩ | ⟨hbeyond, b, bytes, hbytes, hbyte⟩
  · refine ⟨b, [], hbytes, ?_, fun _ => rfl⟩
    rw [isStartByte_iff, isStart_iff, hcode]
  · have hstart : isStartByte b = false := isStartByte_of_beyond hbyte
    refine ⟨b, bytes, hbytes, ?_, fun h => nomatch hstart.symm.trans h⟩
    rw [hstart, isStart_iff]
    exact iff_of_false Bool.false_ne_true (by omega)

/-- The bytes of a text are those of its characters, one character after the other. -/
theorem toUTF8_eq (name : String) :
    name.toUTF8.data.toList = name.toList.flatMap String.utf8EncodeChar := by
  rw [String.toUTF8, ← String.utf8Encode_toList, List.utf8Encode, List.toList_data_toByteArray]

/-! ### The grammar and the reserved prefix -/

/-- **The scan of the bytes decides the grammar**, whatever characters the text has. -/
theorem isGrammatical_iff {name : String} : isGrammatical name = true ↔ FollowsGrammar name := by
  rw [isGrammatical, toUTF8_eq, FollowsGrammar]
  cases name.toList with
  | nil => exact iff_of_false Bool.false_ne_true fun ⟨_, _, h, _⟩ => nomatch h
  | cons c cs =>
    obtain ⟨b, bytes, hbytes, hstart, halone⟩ := isStartByte_utf8EncodeChar c
    rw [List.flatMap_cons, hbytes, List.cons_append, Bool.and_eq_true, hstart]
    constructor
    · rintro ⟨hc, hrest⟩
      rw [halone (hstart.mpr hc), List.nil_append, List.all_flatMap, List.all_eq_true] at hrest
      exact ⟨c, cs, rfl, hc, fun d hd => all_isContinueByte_iff.mp (hrest d hd)⟩
    · rintro ⟨_, _, ⟨⟩, hc, hrest⟩
      rw [halone (hstart.mpr hc), List.nil_append, List.all_flatMap, List.all_eq_true]
      exact ⟨hc, fun d hd => all_isContinueByte_iff.mpr (hrest d hd)⟩

theorem isReserved_iff {name : String} : isReserved name = true ↔ ['_', '_'] <+: name.toList := by
  unfold isReserved
  split
  · rename_i rest h
    exact iff_of_true rfl (h ▸ ⟨rest, rfl⟩)
  · rename_i h
    refine iff_of_false Bool.false_ne_true ?_
    rintro ⟨rest, hrest⟩
    exact h rest hrest.symm

/-- The names that a schema may declare, by their characters. -/
theorem isDeclarable_iff {name : String} :
    IsDeclarable name ↔ FollowsGrammar name ∧ ¬ ['_', '_'] <+: name.toList := by
  rw [IsDeclarable, isGrammatical_iff, ← isReserved_iff, Bool.not_eq_true]

theorem validate_eq_error_iff {name : String} {error : NameError} :
    validate name = .error error ↔
      isReserved name = true ∧ error = .reserved name ∨
      isReserved name = false ∧ isGrammatical name = false ∧ error = .ungrammatical name := by
  unfold validate
  cases isReserved name <;> cases isGrammatical name <;> simp [eq_comm]

/-- **Names are accepted by the grammar alone.**

* The scan accepts exactly the texts that begin with an underscore or an ASCII letter and go on with
  underscores, ASCII letters and ASCII digits.
* A schema may declare those of them that do not begin with two underscores.
* A text that begins with two underscores is refused for that, be it grammatical or not; any other
  text that is refused is ungrammatical. Either reason gives the text itself. -/
theorem validate_exact (name : String) :
    (isGrammatical name = true ↔ FollowsGrammar name) ∧
    (validate name = .ok () ↔ FollowsGrammar name ∧ ¬ ['_', '_'] <+: name.toList) ∧
    ∀ error, validate name = .error error ↔
      ['_', '_'] <+: name.toList ∧ error = .reserved name ∨
      ¬ ['_', '_'] <+: name.toList ∧ ¬ FollowsGrammar name ∧ error = .ungrammatical name := by
  refine ⟨isGrammatical_iff, ?_, fun error => ?_⟩
  · rw [validate_eq_ok_iff, isDeclarable_iff]
  · rw [validate_eq_error_iff, ← isReserved_iff, ← isGrammatical_iff, Bool.not_eq_true,
      Bool.not_eq_true]

/-- The prefix is looked at first, and a letter beyond ASCII is no letter of a name. -/
example : validate "__é" = .error (.reserved "__é") ∧ validate "é" = .error (.ungrammatical "é") ∧
    validate "x__y" = .ok () := by decide

end Schemata.Name
