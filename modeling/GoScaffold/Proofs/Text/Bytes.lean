import GoScaffold.Proofs.Text.Line
import Mathlib.Data.List.Basic

/-! Bytes as lines. Bytes that are no text have lines all the same, and the lines of the bytes of a
text are the bytes of its lines, since the bytes that end lines stand for nothing else. -/

namespace GoScaffold.Text

theorem fromUTF8?_toUTF8 (s : String) : String.fromUTF8? s.toUTF8 = some s := by
  unfold String.fromUTF8?
  exact dif_pos s.isValidUTF8

theorem toUTF8_of_fromUTF8? {bytes : ByteArray} {s : String} (h : String.fromUTF8? bytes = some s) :
    s.toUTF8 = bytes := by
  unfold String.fromUTF8? at h
  split at h
  · exact Option.some.inj h ▸ rfl
  · cases h

def encoded (s : String) : List UInt8 := s.toUTF8.data.toList

theorem encoded_ofList (cs : List Char) :
    encoded (String.ofList cs) = cs.flatMap String.utf8EncodeChar := by
  simp [encoded, List.utf8Encode]

theorem encoded_injective : Function.Injective encoded := by
  intro s t h
  rw [← String.toByteArray_inj]
  exact ByteArray.ext (Array.toList_inj.1 h)

def decoded? (bytes : List UInt8) : Option String := String.fromUTF8? ⟨bytes.toArray⟩

theorem decoded?_encoded (s : String) : decoded? (encoded s) = some s := by
  have hbytes : (⟨(encoded s).toArray⟩ : ByteArray) = s.toUTF8 := by simp [encoded]
  rw [decoded?, hbytes, fromUTF8?_toUTF8]

theorem eq_of_mem_utf8EncodeChar {c d : Char} (hc : c.toNat < 128)
    (h : UInt8.ofNat c.toNat ∈ String.utf8EncodeChar d) : d = c := by
  have high : ∀ n : Nat, 128 ≤ n % 256 → UInt8.ofNat c.toNat ≠ UInt8.ofNat n := by
    intro n hn heq
    have hnat := congrArg UInt8.toNat heq
    rw [UInt8.toNat_ofNat', UInt8.toNat_ofNat'] at hnat
    omega
  unfold String.utf8EncodeChar at h
  simp only at h
  split at h
  next hv =>
    have hnat := congrArg UInt8.toNat (List.mem_singleton.1 h)
    rw [UInt8.toNat_ofNat', UInt8.toNat_ofNat'] at hnat
    have hval : c.toNat = d.toNat := by
      change c.toNat % 256 = d.toNat % 256 at hnat
      change d.toNat ≤ 127 at hv
      omega
    exact (Char.toNat_inj.1 hval).symm
  next =>
    -- all bytes of a longer character are at least 128
    exfalso
    split at h
    · simp only [List.mem_cons, List.not_mem_nil, or_false] at h
      rcases h with h | h <;> exact high _ (by omega) h
    · split at h <;> simp only [List.mem_cons, List.not_mem_nil, or_false] at h
      · rcases h with h | h | h <;> exact high _ (by omega) h
      · rcases h with h | h | h | h <;> exact high _ (by omega) h

theorem newline_mem_of_encode {cs : List Char} (h : 10 ∈ cs.flatMap String.utf8EncodeChar) :
    '\n' ∈ cs := by
  obtain ⟨c, hc, hmem⟩ := List.mem_flatMap.1 h
  exact eq_of_mem_utf8EncodeChar (c := '\n') (by decide) hmem ▸ hc

def dropReturnByte (l : List UInt8) : List UInt8 := if l.getLast? = some 13 then l.dropLast else l

/-- The lines of bytes: a byte 10 ends a line, and takes one byte 13 before it along. -/
def byteLines (bytes : List UInt8) : List (List UInt8) :=
  match (bytes.splitOn 10).reverse with
  | [] => []
  | last :: ended => (ended.map dropReturnByte).reverse ++ (if last.isEmpty then [] else [last])

theorem byteLines_line {l : List UInt8} (bytes : List UInt8) (h : 10 ∉ l) :
    byteLines (l ++ 10 :: bytes) = dropReturnByte l :: byteLines bytes := by
  unfold byteLines
  rw [List.splitOn_append_cons_self_of_not_mem h]
  obtain ⟨ended, last, hs⟩ : ∃ ended last, bytes.splitOn 10 = ended ++ [last] :=
    ⟨_, _, (List.dropLast_concat_getLast (List.splitOn_ne_nil 10 bytes)).symm⟩
  simp [hs]

theorem byteLines_last {l : List UInt8} (h : 10 ∉ l) :
    byteLines l = if l.isEmpty then [] else [l] := by
  unfold byteLines
  rw [List.splitOn_eq_singleton h]
  simp

theorem dropReturnByte_encode (cs : List Char) :
    dropReturnByte (cs.flatMap String.utf8EncodeChar) =
    (dropReturn cs).flatMap String.utf8EncodeChar := by
  rcases List.eq_nil_or_concat' cs with rfl | ⟨k, c, rfl⟩
  · rfl
  · have hne : String.utf8EncodeChar c ≠ [] := String.utf8EncodeChar_ne_nil
    have hlast : ((k ++ [c]).flatMap String.utf8EncodeChar).getLast? =
        (String.utf8EncodeChar c).getLast? := by
      rw [List.flatMap_append, List.flatMap_singleton, List.getLast?_append_of_ne_nil _ hne]
    unfold dropReturnByte dropReturn
    rw [hlast]
    by_cases hc : c = '\r'
    · subst hc
      have hbyte : String.utf8EncodeChar '\r' = [13] := by decide
      simp [hbyte]
    · have hbyte : (String.utf8EncodeChar c).getLast? ≠ some 13 := fun h =>
        hc (eq_of_mem_utf8EncodeChar (c := '\r') (by decide) (List.mem_of_getLast? h))
      rw [if_neg hbyte, if_neg (by simpa using hc)]

theorem byteLines_encode (cs : List Char) : byteLines (cs.flatMap String.utf8EncodeChar) =
    (lineChars cs).map fun l => l.flatMap String.utf8EncodeChar := by
  induction cs using line_induction with
  | last l hl =>
    rw [byteLines_last fun h => hl (newline_mem_of_encode h), lineChars_last hl]
    cases l with
    | nil => rfl
    | cons c l =>
      have hne : String.utf8EncodeChar c ≠ [] := String.utf8EncodeChar_ne_nil
      simp [hne]
  | line l cs hl ih =>
    have hfeed : (l ++ '\n' :: cs).flatMap String.utf8EncodeChar =
        l.flatMap String.utf8EncodeChar ++ 10 :: cs.flatMap String.utf8EncodeChar := by
      rw [List.flatMap_append, List.flatMap_cons]
      rfl
    rw [hfeed, byteLines_line _ fun h => hl (newline_mem_of_encode h), lineChars_line cs hl,
      List.map_cons, dropReturnByte_encode, ih]

theorem byteLines_encoded (s : String) : byteLines (encoded s) = (lines s).map encoded := by
  conv => lhs; rw [← String.ofList_toList (s := s)]
  rw [encoded_ofList, byteLines_encode, lines, List.map_map]
  exact List.map_congr_left fun l _ => (encoded_ofList l).symm

end GoScaffold.Text
