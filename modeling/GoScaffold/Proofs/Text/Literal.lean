import GoScaffold.Proofs.Text.ByteOrder
import GoScaffold.Text.Quoted
import Mathlib.Data.List.Basic

/-! Go string literals, read back. A literal stands for bytes: a character for its encoding, an
escape for one byte. The literal of a text stands for the bytes of the text and ends at its last
quote, whatever follows, so texts with the same literal are the same. -/

namespace GoScaffold.Text

/-! Reading literals. -/

def escapes : List (Char × UInt8) := [('\\', 92), ('"', 34), ('n', 10), ('r', 13), ('t', 9)]

def hexValue? (c : Char) : Option Nat :=
  if '0' ≤ c ∧ c ≤ '9' then some (c.toNat - '0'.toNat)
  else if 'a' ≤ c ∧ c ≤ 'f' then some (c.toNat - 'a'.toNat + 10)
  else if 'A' ≤ c ∧ c ≤ 'F' then some (c.toNat - 'A'.toNat + 10)
  else none

def hexByte? (high low : Char) : Option UInt8 := do
  let h ← hexValue? high
  let l ← hexValue? low
  return UInt8.ofNat (16 * h + l)

def withBytes (bytes : List UInt8) (read : List UInt8 × List Char) : List UInt8 × List Char :=
  (bytes ++ read.1, read.2)

/-- The bytes that the inside of a literal stands for, up to the quote that ends it, and what
follows that quote. A line feed cannot stand in a literal, nor can a backslash without an escape. -/
def inside? : List Char → Option (List UInt8 × List Char)
  | [] => none
  | c :: rest =>
    if c = '"' then some ([], rest)
    else if c = '\n' then none
    else if c = '\\' then
      match rest with
      | [] => none
      | e :: rest =>
        if e = 'x' then
          match rest with
          | high :: low :: rest => do
            let byte ← hexByte? high low
            (inside? rest).map (withBytes [byte])
          | _ => none
        else do
          let byte ← escapes.lookup e
          (inside? rest).map (withBytes [byte])
    else (inside? rest).map (withBytes (String.utf8EncodeChar c))

def literal? : List Char → Option (List UInt8 × List Char)
  | '"' :: rest => inside? rest
  | _ => none

def unquote? (s : String) : Option String := do
  let (bytes, rest) ← literal? s.toList
  guard rest.isEmpty
  decoded? bytes

def IsControl (c : Char) : Prop := c.toNat < 0x20 ∨ c.toNat = 0x7F

instance (c : Char) : Decidable (IsControl c) := inferInstanceAs (Decidable (_ ∨ _))

/-- The characters end in a backslash that begins an escape. -/
def endsOpen (isOpen : Bool) : List Char → Bool
  | [] => isOpen
  | c :: cs => endsOpen (!isOpen && c == '\\') cs

section

variable {c e high low : Char} {byte : UInt8}

theorem inside?_quote (rest : List Char) : inside? ('"' :: rest) = some ([], rest) := by
  rw [inside?.eq_def]
  simp only [if_pos]

theorem inside?_plain (hquote : c ≠ '"') (hline : c ≠ '\n') (hslash : c ≠ '\\') (rest : List Char) :
    inside? (c :: rest) = (inside? rest).map (withBytes (String.utf8EncodeChar c)) := by
  rw [inside?.eq_def]
  simp only [if_neg hquote, if_neg hline, if_neg hslash]

theorem inside?_escape (he : e ≠ 'x') (hbyte : escapes.lookup e = some byte) (rest : List Char) :
    inside? ('\\' :: e :: rest) = (inside? rest).map (withBytes [byte]) := by
  rw [inside?.eq_def]
  simp [he, hbyte]

theorem inside?_byte (hbyte : hexByte? high low = some byte) (rest : List Char) :
    inside? ('\\' :: 'x' :: high :: low :: rest) = (inside? rest).map (withBytes [byte]) := by
  rw [inside?.eq_def]
  simp [hbyte]

theorem endsOpen_append (isOpen : Bool) (cs ds : List Char) :
    endsOpen isOpen (cs ++ ds) = endsOpen (endsOpen isOpen cs) ds := by
  induction cs generalizing isOpen with
  | nil => rfl
  | cons c cs ih => exact ih _

end

/-! What stands for a character in a literal. -/

/-- The ways to write a character: as it is, by an escape of its own, or by the digits of its
code. -/
inductive Written : Char → List Char → Prop
  | plain {c : Char} (hquote : c ≠ '"') (hslash : c ≠ '\\') (hcontrol : ¬IsControl c) :
      Written c [c]
  | escape {c e : Char} (hascii : c.toNat < 0x80) (he : e ≠ 'x') (hshown : ¬IsControl e)
    (hbyte : escapes.lookup e = some (UInt8.ofNat c.toNat)) : Written c ['\\', e]
  | byte {c high low : Char} (hascii : c.toNat < 0x80)
    (hbyte : hexByte? high low = some (UInt8.ofNat c.toNat)) : Written c ['\\', 'x', high, low]

section

variable {c : Char} {cs : List Char}

theorem hexByte?_digitChar : ∀ n < 0x80,
    hexByte? (Nat.digitChar (n / 16)) (Nat.digitChar (n % 16)) = some (UInt8.ofNat n) := by
      decide +kernel

theorem hex_short : ∀ n < 0x10, '0' :: hex n =
    [Nat.digitChar (n / 16), Nat.digitChar (n % 16)] := by
  decide +kernel

theorem hex_long : ∀ n < 0x80, 0x10 ≤ n →
    hex n = [Nat.digitChar (n / 16), Nat.digitChar (n % 16)] := by
  decide +kernel

theorem written_goChar (c : Char) : Written c (goChar c) := by
  have hcode (hascii : c.toNat < 0x80) :
      Written c ['\\', 'x', Nat.digitChar (c.toNat / 16), Nat.digitChar (c.toNat % 16)] :=
    .byte hascii (hexByte?_digitChar c.toNat hascii)
  unfold goChar
  split_ifs with hquote hslash hline hreturn htab hshort hcontrol
  · subst hquote
    exact .escape (by decide) (by decide) (by decide) rfl
  · subst hslash
    exact .escape (by decide) (by decide) (by decide) rfl
  · subst hline
    exact .escape (by decide) (by decide) (by decide) rfl
  · subst hreturn
    exact .escape (by decide) (by decide) (by decide) rfl
  · subst htab
    exact .escape (by decide) (by decide) (by decide) rfl
  · have hdigits := hex_short c.toNat hshort
    rw [List.cons_append, List.cons_append, List.cons_append, List.nil_append, hdigits]
    exact hcode (by omega)
  · have hascii : c.toNat < 0x80 := by omega
    rw [hex_long c.toNat hascii (by omega)]
    exact hcode hascii
  · exact .plain hquote hslash hcontrol

theorem utf8EncodeChar_ascii (h : c.toNat < 0x80) :
    String.utf8EncodeChar c = [UInt8.ofNat c.toNat] := by
  have hval : c.val.toNat ≤ 0x7F := by
    change c.toNat ≤ 0x7F
    omega
  unfold String.utf8EncodeChar
  simp only
  rw [if_pos hval]
  rfl

/-- However a character is written, it is read as its bytes. -/
theorem inside?_written (h : Written c cs) (rest : List Char) :
    inside? (cs ++ rest) = (inside? rest).map (withBytes (String.utf8EncodeChar c)) := by
  cases h with
  | plain hquote hslash hcontrol =>
    have hline : c ≠ '\n' := by
      rintro rfl
      exact hcontrol (by decide)
    exact inside?_plain hquote hline hslash rest
  | escape hascii he _ hbyte =>
    rw [utf8EncodeChar_ascii hascii]
    exact inside?_escape he hbyte rest
  | byte hascii hbyte =>
    rw [utf8EncodeChar_ascii hascii]
    exact inside?_byte hbyte rest

theorem inside?_flatMap (cs rest : List Char) :
    inside? (cs.flatMap goChar ++ '"' :: rest) = some (cs.flatMap String.utf8EncodeChar, rest) := by
  induction cs with
  | nil => exact inside?_quote rest
  | cons c cs ih =>
    rw [List.flatMap_cons, List.append_assoc, inside?_written (written_goChar c), ih,
      List.flatMap_cons]
    rfl

theorem plain_of_hexValue? {n : Nat} (h : hexValue? c = some n) :
    ¬IsControl c ∧ c ≠ '"' ∧ c ≠ '\\' := by
  have hrange : 48 ≤ c.toNat ∧ c.toNat ≤ 57 ∨ 97 ≤ c.toNat ∧ c.toNat ≤ 102 ∨ 65 ≤ c.toNat ∧
      c.toNat ≤ 70 := by
    unfold hexValue? at h
    split_ifs at h with hdigit hlower hupper
    · exact .inl hdigit
    · exact .inr (.inl hlower)
    · exact .inr (.inr hupper)
  refine ⟨?_, ?_, ?_⟩
  · unfold IsControl
    omega
  · rintro rfl
    revert hrange
    decide
  · rintro rfl
    revert hrange
    decide

theorem plain_of_hexByte? {high low : Char} {byte : UInt8} (h : hexByte? high low = some byte) :
    (¬IsControl high ∧ high ≠ '"' ∧ high ≠ '\\') ∧ ¬IsControl low ∧ low ≠ '"' ∧ low ≠ '\\' := by
  unfold hexByte? at h
  obtain ⟨_, hhigh, h⟩ := Option.bind_eq_some_iff.1 h
  obtain ⟨_, hlow, -⟩ := Option.bind_eq_some_iff.1 h
  exact ⟨plain_of_hexValue? hhigh, plain_of_hexValue? hlow⟩

theorem Written.not_isControl (h : Written c cs) {d : Char} (hd : d ∈ cs) : ¬IsControl d := by
  have hslash : ¬IsControl '\\' := by decide
  cases h with
  | plain _ _ hcontrol =>
    rw [List.mem_singleton.1 hd]
    exact hcontrol
  | escape _ _ hshown _ =>
    rcases List.mem_pair.1 hd with rfl | rfl
    · exact hslash
    · exact hshown
  | byte _ hbyte =>
    obtain ⟨⟨hhigh, -⟩, hlow, -⟩ := plain_of_hexByte? hbyte
    simp only [List.mem_cons, List.not_mem_nil, or_false] at hd
    rcases hd with rfl | rfl | rfl | rfl
    · exact hslash
    · decide
    · exact hhigh
    · exact hlow

theorem Written.closed (h : Written c cs) : endsOpen false cs = false := by
  cases h with
  | plain _ hslash _ => exact beq_eq_false_iff_ne.2 hslash
  | escape => rfl
  | byte _ hbyte =>
    obtain ⟨⟨-, -, hhigh⟩, -, -, hlow⟩ := plain_of_hexByte? hbyte
    simp [endsOpen, hhigh, hlow]

theorem Written.open_before (h : Written c cs) {before after : List Char}
    (hcs : cs = before ++ '"' :: after) :
    endsOpen false before = true := by
  have hquote : '"' ∈ cs := hcs ▸ List.mem_append_right before List.mem_cons_self
  cases h with
  | plain hne _ _ => exact absurd (List.mem_singleton.1 hquote).symm hne
  | escape =>
    match before, hcs with
    | [], h => exact absurd (List.cons.inj h).1 (by decide)
    | [d], h =>
      obtain rfl : '\\' = d := (List.cons.inj h).1
      rfl
    | _ :: _ :: before, h => exact absurd (congrArg List.length h) (by simp)
  | byte _ hbyte =>
    obtain ⟨⟨-, hhigh, -⟩, -, hlow, -⟩ := plain_of_hexByte? hbyte
    simp only [List.mem_cons, List.not_mem_nil, or_false] at hquote
    rcases hquote with h | h | h | h
    · exact absurd h (by decide)
    · exact absurd h (by decide)
    · exact absurd h.symm hhigh
    · exact absurd h.symm hlow

/-! The inside of a literal. -/

theorem endsOpen_flatMap (cs : List Char) : endsOpen false (cs.flatMap goChar) = false := by
  induction cs with
  | nil => rfl
  | cons c cs ih => rw [List.flatMap_cons, endsOpen_append, (written_goChar c).closed, ih]

theorem endsOpen_before_quote {before after : List Char}
    (h : cs.flatMap goChar = before ++ '"' :: after) :
    endsOpen false before = true := by
  induction cs generalizing before with
  | nil => exact absurd h (by simp)
  | cons c cs ih =>
    have hc := written_goChar c
    rw [List.flatMap_cons, List.append_eq_append_iff] at h
    rcases h with ⟨more, hbefore, hrest⟩ | ⟨more, hwritten, hrest⟩
    · rw [hbefore, endsOpen_append, hc.closed]
      exact ih hrest
    · -- the quote is the first character of what is left of the character's own part
      cases more with
      | nil =>
        have htail : cs.flatMap goChar = [] ++ '"' :: after := hrest.symm
        have hopen : endsOpen false [] = true := ih htail
        cases hopen
      | cons d more =>
        obtain ⟨rfl, -⟩ := List.cons.inj hrest
        exact hc.open_before hwritten

end

/-! The literal of a text. -/

theorem toList_goQuote (s : String) : (goQuote s).toList = '"' ::
    s.toList.flatMap goChar ++ ['"'] := by
  rw [goQuote, String.toList_ofList]

theorem literal?_goQuote (s : String) (rest : List Char) :
    literal? ((goQuote s).toList ++ rest) = some (encoded s, rest) := by
  have hread := inside?_flatMap s.toList rest
  rw [toList_goQuote, encoded_eq, List.cons_append, List.cons_append, List.append_assoc]
  exact hread

theorem unquote?_goQuote (s : String) : unquote? (goQuote s) = some s := by
  have hread := literal?_goQuote s []
  rw [List.append_nil] at hread
  rw [unquote?, hread]
  exact decoded?_encoded s

/-- A text and its literal determine each other. The literal is the text between quotes with escapes
in it: between them are no control characters, every quote there belongs to an escape, and the last
backslash does, too. Read back by the rules for literals, it ends at its last character and stands
for the text. -/
theorem goQuote_faithful :
    (∀ s : String, ∃ body : List Char, (goQuote s).toList = '"' :: body ++ ['"'] ∧
      (∀ c ∈ body, ¬IsControl c) ∧
      (∀ before after, body = before ++ '"' :: after → endsOpen false before = true) ∧
      endsOpen false body = false ∧
      (∀ rest, literal? ((goQuote s).toList ++ rest) = some (encoded s, rest)) ∧
      unquote? (goQuote s) = some s) ∧
      Function.Injective goQuote := by
  refine ⟨fun s => ⟨s.toList.flatMap goChar, toList_goQuote s, ?_, ?_, endsOpen_flatMap s.toList,
    literal?_goQuote s, unquote?_goQuote s⟩, ?_⟩
  · intro d hd
    obtain ⟨c, -, hdc⟩ := List.mem_flatMap.1 hd
    exact (written_goChar c).not_isControl hdc
  · intro before after hbody
    exact endsOpen_before_quote hbody
  · intro s t h
    have hread := unquote?_goQuote s
    rw [h, unquote?_goQuote t] at hread
    exact (Option.some.inj hread).symm

example : goQuote "tab\t, \"é\" and \x01\x7f" = "\"tab\\t, \\\"é\\\" and \\x01\\x7f\"" := by
  decide +kernel

end GoScaffold.Text
