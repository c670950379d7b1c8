import GoScaffold.Proofs.Text.Bytes
import Mathlib.Data.List.Lex
import Mathlib.Data.String.Basic

/-! The order of texts is the order of their bytes. A character with a greater code has greater
bytes, wherever the two first differ, and the bytes of no character begin those of another one. -/

namespace GoScaffold.Text

theorem ofNat_lt_ofNat {m n : Nat} (hm : m < 256) (hn : n < 256) :
    UInt8.ofNat m < UInt8.ofNat n ↔ m < n := by
  rw [UInt8.lt_iff_toNat_lt, UInt8.toNat_ofNat', UInt8.toNat_ofNat']
  omega

theorem ofNat_eq_ofNat {m n : Nat} (hm : m < 256) (hn : n < 256) :
    UInt8.ofNat m = UInt8.ofNat n ↔ m = n := by
  rw [← UInt8.toNat_inj, UInt8.toNat_ofNat', UInt8.toNat_ofNat']
  omega

theorem lt_digits {m n : Nat} (h : m < n) :
    m / 64 < n / 64 ∨ m / 64 = n / 64 ∧ m % 64 < n % 64 := by
  omega

theorem utf8EncodeChar_append_lt {c d : Char} (h : c < d) (x y : List UInt8) :
    String.utf8EncodeChar c ++ x < String.utf8EncodeChar d ++ y := by
  have hlt : c.val.toNat < d.val.toNat := h
  have hd : d.val.toNat < 0x110000 := by
    rcases d.valid with hlow | ⟨-, hhigh⟩
    · exact hlow.trans (by decide)
    · exact hhigh
  unfold String.utf8EncodeChar
  simp only
  generalize c.val.toNat = m at *
  generalize d.val.toNat = n at *
  have hlead : m / 262144 % 8 = m / 262144 ∧ n / 262144 % 8 = n / 262144 := by omega
  rw [hlead.1, hlead.2]
  -- the first place of 64 at which the codes differ decides about the bytes
  have hones := lt_digits hlt
  have htwos : m / 64 < n / 64 → _ := lt_digits
  have hthrees : m / 4096 < n / 4096 → _ := lt_digits
  rw [show m / 64 / 64 = m / 4096 by omega, show n / 64 / 64 = n / 4096 by omega] at htwos
  rw [show m / 4096 / 64 = m / 262144 by omega, show n / 4096 / 64 = n / 262144 by omega] at hthrees
  split_ifs <;>
    simp (disch := omega) only [List.cons_append, List.nil_append, List.cons_lt_cons_iff,
      ofNat_lt_ofNat, ofNat_eq_ofNat] <;>
    omega

theorem flatMap_utf8EncodeChar_lt {cs ds : List Char} (h : cs < ds) :
    cs.flatMap String.utf8EncodeChar < ds.flatMap String.utf8EncodeChar := by
  induction h with
  | nil =>
    rw [List.flatMap_nil, List.flatMap_cons]
    obtain ⟨byte, bytes, hbytes⟩ := List.exists_cons_of_ne_nil (String.utf8EncodeChar_ne_nil)
    rw [hbytes]
    exact List.nil_lt_cons _ _
  | rel hlt =>
    rw [List.flatMap_cons, List.flatMap_cons]
    exact utf8EncodeChar_append_lt hlt _ _
  | cons _ ih =>
    rw [List.flatMap_cons, List.flatMap_cons]
    exact List.append_left_lt ih

theorem encoded_eq (s : String) : encoded s = s.toList.flatMap String.utf8EncodeChar := by
  rw [← encoded_ofList, String.ofList_toList]

theorem encoded_lt_of_lt {s t : String} (h : s < t) : encoded s < encoded t := by
  rw [encoded_eq, encoded_eq]
  exact flatMap_utf8EncodeChar_lt (String.lt_iff_toList_lt.1 h)

theorem encoded_lt_iff {s t : String} : encoded s < encoded t ↔ s < t := by
  refine ⟨fun h => ?_, encoded_lt_of_lt⟩
  rcases lt_trichotomy s t with hlt | rfl | hgt
  · exact hlt
  · exact absurd h (List.lt_irrefl _)
  · exact absurd (encoded_lt_of_lt hgt) (List.lt_asymm h)

theorem map_encoded_lt_iff {ss ts : List String} : ss.map encoded < ts.map encoded ↔ ss < ts := by
  induction ss generalizing ts with
  | nil => cases ts <;> simp
  | cons s ss ih =>
    cases ts with
    | nil => simp
    | cons t ts =>
      rw [List.map_cons, List.map_cons, List.cons_lt_cons_iff, List.cons_lt_cons_iff, ih,
        encoded_lt_iff, encoded_injective.eq_iff]

end GoScaffold.Text
