import GoScaffold.Number.Scientific
import Mathlib.Data.List.TakeWhile

/-! Decimal literals, as a grammar, and what is read as a floating point number: the decimal
literals, and the words for an infinity and for no number, which have a sign as well. -/

namespace GoScaffold

namespace Scientific

/-! The grammar. -/

def IsDigits (cs : List Char) : Prop := ∀ c ∈ cs, c.isDigit = true

inductive IsSign : List Char → Prop where
  | absent : IsSign []
  | plus : IsSign ['+']
  | minus : IsSign ['-']

/-- Digits, at least one of them, with at most one point. -/
inductive IsMantissa : List Char → Prop where
  | whole {ds : List Char} : ds ≠ [] → IsDigits ds → IsMantissa ds
  | pointed {ws fs : List Char} : ws ++ fs ≠ [] → IsDigits ws → IsDigits fs →
      IsMantissa (ws ++ '.' :: fs)

inductive IsExponent : List Char → Prop where
  | absent : IsExponent []
  | present {e : Char} {s ds : List Char} : e = 'e' ∨ e = 'E' → IsSign s → ds ≠ [] → IsDigits ds →
      IsExponent (e :: (s ++ ds))

def IsDecimal (cs : List Char) : Prop :=
  ∃ s m e, cs = s ++ (m ++ e) ∧ IsSign s ∧ IsMantissa m ∧ IsExponent e

/-! Reading signs. -/

theorem exists_sign (cs : List Char) : ∃ s, IsSign s ∧ cs = s ++ (sign cs).2 := by
  unfold sign
  split
  · exact ⟨['+'], .plus, rfl⟩
  · exact ⟨['-'], .minus, rfl⟩
  · exact ⟨[], .absent, rfl⟩

def Bare (cs : List Char) : Prop := ∀ c ∈ cs.head?, c ≠ '+' ∧ c ≠ '-'

theorem sign_append {s cs : List Char} (hs : IsSign s) (hcs : Bare cs) :
    (sign (s ++ cs)).2 = cs := by
  cases hs with
  | plus => rfl
  | minus => rfl
  | absent =>
    rw [List.nil_append]
    unfold sign
    split
    · exact absurd rfl (hcs '+' rfl).1
    · exact absurd rfl (hcs '-' rfl).2
    · rfl

theorem bare_of_isDigit {c : Char} {cs : List Char} (hc : c.isDigit = true) : Bare (c :: cs) := by
  intro d hd
  obtain rfl : c = d := by simpa using hd
  constructor <;> rintro rfl <;> exact absurd hc (by decide)

theorem IsDigits.bare {ds : List Char} (h : IsDigits ds) : Bare ds := by
  cases ds with
  | nil => simp [Bare]
  | cons c ds => exact bare_of_isDigit (h c List.mem_cons_self)

/-! Reading exponents. -/

theorem exponent?_isSome_iff {cs : List Char} : (exponent? cs).isSome = true ↔ IsExponent cs := by
  cases cs with
  | nil => exact ⟨fun _ => .absent, fun _ => rfl⟩
  | cons e rest =>
    have hread : (exponent? (e :: rest)).isSome = true ↔
        (e = 'e' ∨ e = 'E') ∧ (sign rest).2 ≠ [] ∧ IsDigits (sign rest).2 := by
      simp only [exponent?]
      split
      next h => simpa [IsDigits, and_assoc] using h
      next h => simpa [IsDigits, and_assoc] using h
    rw [hread]
    constructor
    · rintro ⟨he, hne, hdigits⟩
      obtain ⟨s, hs, hrest⟩ := exists_sign rest
      rw [hrest]
      exact .present he hs hne hdigits
    · rintro (_ | ⟨he, hs, hne, hdigits⟩)
      rw [sign_append hs hdigits.bare]
      exact ⟨he, hne, hdigits⟩

/-! Reading what has no sign. -/

def EndsDigits (cs : List Char) : Prop := ∀ c ∈ cs.head?, c.isDigit = false

theorem IsExponent.endsDigits {e : List Char} (h : IsExponent e) : EndsDigits e := by
  cases h with
  | absent => simp [EndsDigits]
  | present he =>
    intro c hc
    obtain rfl := Option.some.inj hc
    rcases he with rfl | rfl <;> rfl

theorem takeWhile_digits {ds rest : List Char} (hds : IsDigits ds) (hrest : EndsDigits rest) :
    (ds ++ rest).takeWhile Char.isDigit = ds := by
  rw [List.takeWhile_append_of_pos hds]
  cases rest with
  | nil => simp
  | cons c rest => rw [List.takeWhile_cons_of_neg (by simp [hrest c rfl]), List.append_nil]

theorem dropWhile_digits {ds rest : List Char} (hds : IsDigits ds) (hrest : EndsDigits rest) :
    (ds ++ rest).dropWhile Char.isDigit = rest := by
  rw [List.dropWhile_append_of_pos hds]
  cases rest with
  | nil => rfl
  | cons c rest => rw [List.dropWhile_cons_of_neg (by simp [hrest c rfl])]

theorem isDigits_takeWhile (cs : List Char) : IsDigits (cs.takeWhile Char.isDigit) :=
  fun _ hc => List.mem_takeWhile_imp hc

theorem exists_of_unsigned? {cs : List Char} (h : (unsigned? cs).isSome = true) :
    ∃ m e, cs = m ++ e ∧ IsMantissa m ∧ IsExponent e := by
  have hcs : cs = cs.takeWhile Char.isDigit ++ cs.dropWhile Char.isDigit :=
    List.takeWhile_append_dropWhile.symm
  have hwhole := isDigits_takeWhile cs
  unfold unsigned? at h
  dsimp only at h
  generalize cs.takeWhile Char.isDigit = whole at h hcs hwhole
  generalize cs.dropWhile Char.isDigit = after at h hcs
  subst hcs
  split at h
  next more =>
    split at h
    · cases h
    next hne =>
      rw [Option.isSome_map, exponent?_isSome_iff] at h
      have hparts : whole ++ more.takeWhile Char.isDigit ≠ [] := by
        intro hnil
        obtain ⟨hwhole, hfraction⟩ := List.append_eq_nil_iff.1 hnil
        exact hne (by simp [hwhole, hfraction])
      refine ⟨_, _, ?_, .pointed hparts hwhole (isDigits_takeWhile more), h⟩
      rw [List.append_assoc, List.cons_append, List.takeWhile_append_dropWhile]
  next =>
    split at h
    · cases h
    next hne =>
      rw [Option.isSome_map, exponent?_isSome_iff] at h
      exact ⟨_, _, rfl, .whole (by simpa using hne) hwhole, h⟩

theorem isSome_unsigned? {m e : List Char} (hm : IsMantissa m) (he : IsExponent e) :
    (unsigned? (m ++ e)).isSome = true := by
  cases hm with
  | whole hne hds =>
    unfold unsigned?
    dsimp only
    rw [takeWhile_digits hds he.endsDigits, dropWhile_digits hds he.endsDigits]
    split
    next more =>
      -- an exponent does not begin with a point
      rcases he with _ | ⟨hdot | hdot, -⟩ <;> cases hdot
    next => simp [hne, exponent?_isSome_iff.2 he]
  | @pointed ws fs hne hws hfs =>
    have hdot : EndsDigits ('.' :: (fs ++ e)) := by simp [EndsDigits]
    unfold unsigned?
    dsimp only
    rw [List.append_assoc, List.cons_append, takeWhile_digits hws hdot, dropWhile_digits hws hdot]
    split
    next more heq =>
      obtain rfl := (List.cons.inj heq).2
      rw [takeWhile_digits hfs he.endsDigits, dropWhile_digits hfs he.endsDigits,
        if_neg (by simpa using hne), Option.isSome_map, exponent?_isSome_iff.2 he]
    next hother => exact absurd rfl (hother _)

theorem unsigned?_isSome_iff {cs : List Char} : (unsigned? cs).isSome = true ↔
    ∃ m e, cs = m ++ e ∧ IsMantissa m ∧ IsExponent e := by
  constructor
  · exact exists_of_unsigned?
  · rintro ⟨m, e, rfl, hm, he⟩
    exact isSome_unsigned? hm he

theorem IsMantissa.exists_head {m : List Char} (h : IsMantissa m) :
    ∃ c rest, m = c :: rest ∧ (c.isDigit = true ∨ c = '.') := by
  cases h with
  | whole hne hds =>
    obtain ⟨c, rest, rfl⟩ := List.exists_cons_of_ne_nil hne
    exact ⟨c, rest, rfl, .inl (hds c List.mem_cons_self)⟩
  | @pointed ws fs _ hws _ =>
    cases ws with
    | nil => exact ⟨'.', fs, rfl, .inr rfl⟩
    | cons c ws => exact ⟨c, _, rfl, .inl (hws c List.mem_cons_self)⟩

theorem IsMantissa.bare_append {m : List Char} (h : IsMantissa m) (e : List Char) :
    Bare (m ++ e) := by
  obtain ⟨c, rest, rfl, hc | rfl⟩ := h.exists_head
  · exact bare_of_isDigit hc
  · simp [Bare]

theorem isDecimal_iff {cs : List Char} : IsDecimal cs ↔ (unsigned? (sign cs).2).isSome = true := by
  rw [unsigned?_isSome_iff]
  constructor
  · rintro ⟨s, m, e, rfl, hs, hm, he⟩
    exact ⟨m, e, sign_append hs (hm.bare_append e), hm, he⟩
  · rintro ⟨m, e, hrest, hm, he⟩
    obtain ⟨s, hs, hcs⟩ := exists_sign cs
    exact ⟨s, m, e, by rw [← hrest, ← hcs], hs, hm, he⟩

end Scientific

namespace Binary64

open Scientific

def specialWords : List String := ["inf", "infinity", "nan"]

def IsSpecial (cs : List Char) : Prop :=
  ∃ s word, cs = s ++ word ∧ IsSign s ∧ String.ofList (word.map Char.toLower) ∈ specialWords

theorem special?_isSome_iff {word : List Char} : (special? word).isSome = true ↔
    String.ofList (word.map Char.toLower) ∈ specialWords := by
  unfold special?
  dsimp only
  generalize String.ofList (word.map Char.toLower) = lower
  by_cases hinf : lower = "inf" ∨ lower = "infinity"
  · rcases hinf with rfl | rfl <;> simp [specialWords]
  · by_cases hnan : lower = "nan" <;> simp_all [specialWords]

theorem exists_head_of_special {word : List Char}
    (h : String.ofList (word.map Char.toLower) ∈ specialWords) :
    ∃ c rest, word = c :: rest ∧ (c.toLower = 'i' ∨ c.toLower = 'n') := by
  have hchars : word.map Char.toLower ∈ specialWords.map String.toList :=
    List.mem_map.2 ⟨_, h, String.toList_ofList⟩
  have hheads : ∀ cs ∈ specialWords.map String.toList, cs.head? = some 'i' ∨
      cs.head? = some 'n' := by
    simp [specialWords]
  cases word with
  | nil => simpa using hheads _ hchars
  | cons c rest => exact ⟨c, rest, rfl, by simpa using hheads _ hchars⟩

theorem bare_of_special {word : List Char}
    (h : String.ofList (word.map Char.toLower) ∈ specialWords) : Bare word := by
  obtain ⟨c, rest, rfl, hc⟩ := exists_head_of_special h
  intro d hd
  obtain rfl := Option.some.inj hd
  constructor <;> rintro rfl <;> rcases hc with hc | hc <;> exact absurd hc (by decide)

theorem isSpecial_iff {cs : List Char} : IsSpecial cs ↔ (special? (sign cs).2).isSome = true := by
  rw [special?_isSome_iff]
  constructor
  · rintro ⟨s, word, rfl, hs, hword⟩
    rwa [sign_append hs (bare_of_special hword)]
  · intro hword
    obtain ⟨s, hs, hcs⟩ := exists_sign cs
    exact ⟨s, _, hcs, hs, hword⟩

theorem parse?_isSome_iff {s : String} :
    (parse? s).isSome = true ↔ IsDecimal s.toList ∨ IsSpecial s.toList := by
  rw [isDecimal_iff, isSpecial_iff]
  unfold parse?
  dsimp only
  cases special? (sign s.toList).2 with
  | some x => simp
  | none => simp

theorem toLower_of_isDigit {c : Char} (h : c.isDigit = true) : c.toLower = c := by
  unfold Char.isDigit at h
  unfold Char.toLower
  rw [dif_neg]
  grind

theorem not_isDecimal_of_isSpecial {cs : List Char} (h : IsSpecial cs) : ¬ IsDecimal cs := by
  rintro ⟨s, m, e, hcs, hs, hm, -⟩
  obtain ⟨s', word, hcs', hs', hword⟩ := h
  -- without the sign, the one begins with a letter and the other with a digit or a point
  have hsame : word = m ++ e := by
    rw [← sign_append hs' (bare_of_special hword), ← hcs', hcs, sign_append hs (hm.bare_append e)]
  obtain ⟨c, rest, rfl, hc⟩ := exists_head_of_special hword
  obtain ⟨d, rest', rfl, hd⟩ := hm.exists_head
  obtain rfl : c = d := (List.cons.inj hsame).1
  rcases hd with hd | rfl
  · rw [toLower_of_isDigit hd] at hc
    rcases hc with rfl | rfl <;> exact absurd hd (by decide)
  · rcases hc with hc | hc <;> exact absurd hc (by decide)

end Binary64

end GoScaffold
