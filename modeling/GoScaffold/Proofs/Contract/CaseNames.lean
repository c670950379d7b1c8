import GoScaffold.Contract
import GoScaffold.Proofs.Json.RoundTrip
import Mathlib.Data.List.DropRight

/-! Names of contract tests. A name that occurs again is followed by a number, and nothing separates
the two. Since no name ends in a digit before it is numbered, the name and its number can be told
from the text. -/

namespace GoScaffold.Contract

/-! Numbered names. -/

def label (name : String) (n : Nat) : String := if n = 0 then name else name ++ toString (n + 1)

def EndsPlain (name : String) : Prop := ∀ c ∈ name.toList.getLast?, c.isDigit = false

section

variable {name other : String} {n m : Nat}

theorem rdropWhile_of_endsPlain (h : EndsPlain name) :
    name.toList.rdropWhile Char.isDigit = name.toList := by
  rw [List.rdropWhile_eq_self_iff]
  intro hne
  rw [h _ (List.getLast_mem_getLast? hne)]
  exact Bool.false_ne_true

theorem rdropWhile_label (h : EndsPlain name) (n : Nat) :
    (label name n).toList.rdropWhile Char.isDigit = name.toList := by
  unfold label
  split_ifs
  · exact rdropWhile_of_endsPlain h
  · have hdigits : ∀ c ∈ (Nat.toDigits 10 (n + 1)).reverse, c.isDigit = true :=
      fun c hc => Json.Numeral.isDigit_toDigits (List.mem_reverse.1 hc)
    have htext : (toString (n + 1)).toList = Nat.toDigits 10 (n + 1) := Nat.toList_repr
    rw [String.toList_append, htext, List.rdropWhile, List.reverse_append,
      List.dropWhile_append_of_pos hdigits]
    exact rdropWhile_of_endsPlain h

theorem toString_inj (h : toString n = toString m) : n = m := by
  have hdigits : Nat.toDigits 10 n = Nat.toDigits 10 m := by
    rw [← Nat.toList_repr, ← Nat.toList_repr]
    exact congrArg String.toList h
  rw [← Nat.ofDigitChars_ten_toDigits (n := n), hdigits, Nat.ofDigitChars_ten_toDigits]

theorem label_inj (hname : EndsPlain name) (hother : EndsPlain other)
    (h : label name n = label other m) :
    name = other ∧ n = m := by
  have hsame : name = other := by
    rw [← String.toList_inj, ← rdropWhile_label hname n, h, rdropWhile_label hother m]
  subst hsame
  refine ⟨rfl, ?_⟩
  unfold label at h
  split_ifs at h with hn hm hm
  · omega
  · exact absurd (String.append_eq_left_iff.1 h.symm) Nat.repr_ne_empty
  · exact absurd (String.append_eq_left_iff.1 h) Nat.repr_ne_empty
  · have hnumber : toString (n + 1) = toString (m + 1) := (String.append_right_inj name).1 h
    exact Nat.succ.inj (toString_inj hnumber)

end

/-! Names of a list, numbered one after another. -/

theorem numbered_cons (seen : List String) (name : String) (names : List String) :
    numbered seen (name :: names) = label name (seen.count name) :: numbered (name :: seen) names :=
      rfl

theorem length_numbered (seen names : List String) :
    (numbered seen names).length = names.length := by
  induction names generalizing seen with
  | nil => rfl
  | cons name names ih => rw [numbered_cons, List.length_cons, List.length_cons, ih]

/-- A name is numbered by its occurrences, those that were seen before among them. -/
theorem exists_label_of_mem_numbered {seen names : List String} {text : String}
    (h : text ∈ numbered seen names) :
    ∃ name ∈ names, ∃ n, seen.count name ≤ n ∧ text = label name n := by
  induction names generalizing seen with
  | nil => cases h
  | cons name names ih =>
    rw [numbered_cons] at h
    rcases List.mem_cons.1 h with rfl | h
    · exact ⟨name, List.mem_cons_self, _, le_rfl, rfl⟩
    · obtain ⟨other, hother, n, hn, rfl⟩ := ih h
      exact ⟨other, List.mem_cons_of_mem _ hother, n, (List.count_le_count_cons).trans hn, rfl⟩

theorem nodup_numbered {names : List String} (h : ∀ name ∈ names, EndsPlain name)
    (seen : List String) :
    (numbered seen names).Nodup := by
  induction names generalizing seen with
  | nil => exact List.nodup_nil
  | cons name names ih =>
    rw [List.forall_mem_cons] at h
    rw [numbered_cons, List.nodup_cons]
    refine ⟨fun hmem => ?_, ih h.2 (name :: seen)⟩
    obtain ⟨other, hother, n, hn, hlabel⟩ := exists_label_of_mem_numbered hmem
    obtain ⟨rfl, rfl⟩ := label_inj h.1 (h.2 other hother) hlabel
    -- the name itself has been seen once more since then
    rw [List.count_cons_self] at hn
    omega

/-! Names of cases. -/

def requestMethods : List String := ["GET", "POST", "PUT", "PATCH", "DELETE", "WS"]

theorem endsPlain_append {before after : String} (hne : after ≠ "") (h : EndsPlain after) :
    EndsPlain (before ++ after) := by
  unfold EndsPlain
  rw [String.toList_append, List.getLast?_append_of_ne_nil _ (mt String.toList_eq_nil_iff.1 hne)]
  exact h

theorem exported_requestMethods : ∀ method ∈ requestMethods,
    Name.exported (Text.lower method) ∈ ["Get", "Post", "Put", "Patch", "Delete", "Ws"] := by
      decide +kernel

theorem endsPlain_baseName {e : Model.Endpoint} (h : e.method ∈ requestMethods) :
    EndsPlain (baseName e) := by
  have hmethod : ∀ word ∈ ["Get", "Post", "Put", "Patch", "Delete", "Ws"],
      word ≠ "" ∧ word.toList.getLast?.any Char.isDigit = false := by decide
  obtain ⟨hne, hplain⟩ := hmethod _ (exported_requestMethods _ h)
  refine endsPlain_append hne fun c hc => ?_
  rw [Option.mem_def.1 hc] at hplain
  exact hplain

theorem Case.name_of (model : Model) (name : String) (e : Model.Endpoint) :
    (Case.of model name e).name = name := by
  unfold Case.of
  split <;> rfl

theorem Case.endpoint_of (model : Model) (name : String) (e : Model.Endpoint) :
    (Case.of model name e).endpoint = e := by
  unfold Case.of
  split <;> rfl

def caseNames (model : Model) : List String := numbered [] (model.endpoints.map baseName)

theorem length_caseNames (model : Model) : (caseNames model).length = model.endpoints.length := by
  rw [caseNames, length_numbered, List.length_map]

theorem cases_eq_map (model : Model) :
    (suite model).cases = ((caseNames model).zip model.endpoints).map fun p =>
      Case.of model p.1 p.2 := by
  rw [List.map_zip_eq_zipWith]
  rfl

theorem names_cases (model : Model) : (suite model).cases.map Case.name = caseNames model := by
  rw [cases_eq_map, List.map_map]
  refine Eq.trans ?_ (List.map_fst_zip (length_caseNames model).le)
  exact List.map_congr_left fun p _ => Case.name_of model p.1 p.2

theorem endpoints_cases (model : Model) :
    (suite model).cases.map Case.endpoint = model.endpoints := by
  rw [cases_eq_map, List.map_map]
  refine Eq.trans ?_ (List.map_snd_zip (length_caseNames model).ge)
  exact List.map_congr_left fun p _ => Case.endpoint_of model p.1 p.2

/-- There is one case for every endpoint, in their order, and no two cases have one name, however
often an endpoint is repeated and whatever its service and its operation are called. -/
theorem cases_named_apart (model : Model) (h : ∀ e ∈ model.endpoints, e.method ∈ requestMethods) :
    (suite model).cases.map Case.endpoint = model.endpoints ∧
    ((suite model).cases.map Case.name).Nodup := by
  refine ⟨endpoints_cases model, ?_⟩
  rw [names_cases]
  exact nodup_numbered (List.forall_mem_map.2 fun e he => endsPlain_baseName (h e he)) []

def itemLists : Model where
  endpoints := [
    { declared := { method := "GET", path := "/items", service := "Order", rpc := "ItemList" } },
    { declared := { method := "GET", path := "/items", service := "OrderItem", rpc := "List" } },
    { declared := { method := "WS", path := "/items", service := "OrderItem", rpc := "List" } },
    { declared := { method := "GET", path := "/items", service := "OrderItem", rpc := "List" } }]

theorem cases_named_apart_itemLists :
    (suite itemLists).cases.map Case.name =
        ["OrderItemListGet", "OrderItemListGet2", "OrderItemListWs", "OrderItemListGet3"] ∧
      (suite itemLists).cases.map Case.endpoint = itemLists.endpoints ∧
      ((suite itemLists).cases.map Case.name).Nodup :=
  ⟨by decide +kernel, cases_named_apart itemLists (by decide)⟩

end GoScaffold.Contract
