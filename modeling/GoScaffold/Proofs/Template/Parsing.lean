import GoScaffold.Template.Parser
import GoScaffold.Text.Line

/-! The template in a text, by evaluation: whether a text given as characters is read as a template
is decided by a computation. -/

namespace GoScaffold

namespace Text

inductive Spelled : List String → List (List Char) → Prop
  | nil : Spelled [] []
  | cons {line : String} {cs : List Char} {lines : List String} {css : List (List Char)} :
    line = String.ofList cs → Spelled lines css → Spelled (line :: lines) (cs :: css)

theorem toList_unlines {lines : List String} {css : List (List Char)} (h : Spelled lines css) :
    (unlines lines).toList = css.flatMap (· ++ ['\n']) := by
  rw [unlines, String.toList_join]
  induction h with
  | nil => rfl
  | cons hline _ ih => simp [hline, ih]

end Text

namespace Template

namespace Expr

mutual

/-- The expressions are the same. Of constants only texts and integers are compared. -/
def agrees : Expr → Expr → Bool
  | const (.str x) => fun | const (.str y) => x == y | _ => false
  | const (.num (.int i)) => fun | const (.num (.int j)) => i == j | _ => false
  | const _ => fun _ => false
  | var x => fun | var y => x == y | _ => false
  | attr a x => fun | attr b y => a.agrees b && x == y | _ => false
  | not a => fun | not b => a.agrees b | _ => false
  | and a a' => fun | and b b' => a.agrees b && a'.agrees b' | _ => false
  | or a a' => fun | or b b' => a.agrees b && a'.agrees b' | _ => false
  | binary p a a' => fun | binary q b b' => p == q && a.agrees b && a'.agrees b' | _ => false
  | filter a x as => fun | filter b y bs => a.agrees b && x == y && agreesAll as bs | _ => false
  | call a as => fun | call b bs => a.agrees b && agreesAll as bs | _ => false

def agreesAll : List Expr → List Expr → Bool
  | [] => fun | [] => true | _ => false
  | a :: as => fun | b :: bs => a.agrees b && agreesAll as bs | _ => false

end

mutual

theorem eq_of_agrees : ∀ {a b : Expr}, a.agrees b = true → a = b
  | const j, b, h => by
    rcases j with _ | _ | (i | _) | x | _ | _
    case num.int =>
      rcases b with (_ | _ | (k | _) | _ | _ | _) | _ | _ | _ | _ | _ | _ | _ | _
      case const.num.int =>
        have hik : i = k := beq_iff_eq.1 h
        rw [hik]
      all_goals cases h
    case str =>
      rcases b with (_ | _ | (_ | _) | y | _ | _) | _ | _ | _ | _ | _ | _ | _ | _
      case const.str =>
        have hxy : x = y := beq_iff_eq.1 h
        rw [hxy]
      all_goals cases h
    all_goals cases h
  | var x, b, h => by
    cases b with
    | var y =>
      have hxy : x = y := beq_iff_eq.1 h
      rw [hxy]
    | _ => cases h
  | attr a x, b, h => by
    cases b with
    | attr b y =>
      simp only [agrees, Bool.and_eq_true, beq_iff_eq] at h
      rw [eq_of_agrees h.1, h.2]
    | _ => cases h
  | not a, b, h => by
    cases b with
    | not b => rw [eq_of_agrees (a := a) h]
    | _ => cases h
  | and a a', b, h => by
    cases b with
    | and b b' =>
      simp only [agrees, Bool.and_eq_true] at h
      rw [eq_of_agrees h.1, eq_of_agrees h.2]
    | _ => cases h
  | or a a', b, h => by
    cases b with
    | or b b' =>
      simp only [agrees, Bool.and_eq_true] at h
      rw [eq_of_agrees h.1, eq_of_agrees h.2]
    | _ => cases h
  | binary p a a', b, h => by
    cases b with
    | binary q b b' =>
      simp only [agrees, Bool.and_eq_true, beq_iff_eq] at h
      rw [h.1.1, eq_of_agrees h.1.2, eq_of_agrees h.2]
    | _ => cases h
  | filter a x as, b, h => by
    cases b with
    | filter b y bs =>
      simp only [agrees, Bool.and_eq_true, beq_iff_eq] at h
      rw [eq_of_agrees h.1.1, h.1.2, eq_of_agreesAll h.2]
    | _ => cases h
  | call a as, b, h => by
    cases b with
    | call b bs =>
      simp only [agrees, Bool.and_eq_true] at h
      rw [eq_of_agrees h.1, eq_of_agreesAll h.2]
    | _ => cases h

theorem eq_of_agreesAll : ∀ {as bs : List Expr}, agreesAll as bs = true → as = bs
  | [], bs, h => by
    cases bs with
    | nil => rfl
    | cons b bs => cases h
  | a :: as, bs, h => by
    cases bs with
    | nil => cases h
    | cons b bs =>
      simp only [agreesAll, Bool.and_eq_true] at h
      rw [eq_of_agrees h.1, eq_of_agreesAll h.2]

end

end Expr

namespace Node

def agreesOption : Option Expr → Option Expr → Bool
  | none => fun | none => true | _ => false
  | some a => fun | some b => a.agrees b | _ => false

theorem eq_of_agreesOption {a b : Option Expr} (h : agreesOption a b = true) : a = b := by
  cases a <;> cases b
  case some.some => rw [Expr.eq_of_agrees h]
  case none.none => rfl
  all_goals cases h

mutual

def agrees : Node → Node → Bool
  | text x => fun | text y => x == y | _ => false
  | print a => fun | print b => a.agrees b | _ => false
  | branch a yes no => fun
    | branch b yes' no' => a.agrees b && agreesAll yes yes' && agreesAll no no'
    | _ => false
  | loop xs a c body other => fun
    | loop ys b d body' other' =>
      xs == ys && a.agrees b && agreesOption c d && agreesAll body body' && agreesAll other other'
    | _ => false
  | set x a => fun | set y b => x == y && a.agrees b | _ => false
  | capture x body => fun | capture y body' => x == y && agreesAll body body' | _ => false
  | define x ps body => fun
    | define y qs body' => x == y && ps == qs && agreesAll body body'
    | _ => false

def agreesAll : List Node → List Node → Bool
  | [] => fun | [] => true | _ => false
  | n :: ns => fun | m :: ms => n.agrees m && agreesAll ns ms | _ => false

end

mutual

theorem eq_of_agrees : ∀ {n m : Node}, n.agrees m = true → n = m
  | text x, m, h => by
    cases m with
    | text y =>
      have hxy : x = y := beq_iff_eq.1 h
      rw [hxy]
    | _ => cases h
  | print a, m, h => by
    cases m with
    | print b => rw [Expr.eq_of_agrees (a := a) h]
    | _ => cases h
  | branch a yes no, m, h => by
    cases m with
    | branch b yes' no' =>
      simp only [agrees, Bool.and_eq_true] at h
      rw [Expr.eq_of_agrees h.1.1, eq_of_agreesAll h.1.2, eq_of_agreesAll h.2]
    | _ => cases h
  | loop xs a c body other, m, h => by
    cases m with
    | loop ys b d body' other' =>
      simp only [agrees, Bool.and_eq_true, beq_iff_eq] at h
      obtain ⟨⟨⟨⟨hxs, ha⟩, hc⟩, hbody⟩, hother⟩ := h
      rw [hxs, Expr.eq_of_agrees ha, eq_of_agreesOption hc, eq_of_agreesAll hbody,
        eq_of_agreesAll hother]
    | _ => cases h
  | set x a, m, h => by
    cases m with
    | set y b =>
      simp only [agrees, Bool.and_eq_true, beq_iff_eq] at h
      rw [h.1, Expr.eq_of_agrees h.2]
    | _ => cases h
  | capture x body, m, h => by
    cases m with
    | capture y body' =>
      simp only [agrees, Bool.and_eq_true, beq_iff_eq] at h
      rw [h.1, eq_of_agreesAll h.2]
    | _ => cases h
  | define x ps body, m, h => by
    cases m with
    | define y qs body' =>
      simp only [agrees, Bool.and_eq_true, beq_iff_eq] at h
      rw [h.1.1, h.1.2, eq_of_agreesAll h.2]
    | _ => cases h

theorem eq_of_agreesAll : ∀ {ns ms : List Node}, agreesAll ns ms = true → ns = ms
  | [], ms, h => by
    cases ms with
    | nil => rfl
    | cons m ms => cases h
  | n :: ns, ms, h => by
    cases ms with
    | nil => cases h
    | cons m ms =>
      simp only [agreesAll, Bool.and_eq_true] at h
      rw [eq_of_agrees h.1, eq_of_agreesAll h.2]

end

end Node

def spells (cs : List Char) (t : Template) : Bool :=
  (Lexer.pieces (cs.length + 1) true cs).any fun ps =>
    (Parser.body (4 * ps.length + 4) ps).any fun b => b.finish.isNone && Node.agreesAll b.nodes t

theorem parse?_unlines {lines : List String} {css : List (List Char)} {t : Template}
    (hlines : Text.Spelled lines css) (h : spells (css.flatMap (· ++ ['\n'])) t = true) :
    parse? (Text.unlines lines) = some t := by
  have hchars := Text.toList_unlines hlines
  rw [spells, Option.any_eq_true] at h
  obtain ⟨ps, hps, hread⟩ := h
  obtain ⟨b, hb, hnodes⟩ := (Option.any_eq_true _ _).1 hread
  rw [Bool.and_eq_true] at hnodes
  have hpieces : pieces? (Text.unlines lines) = some ps := by
    rw [pieces?, ← String.length_toList, hchars]
    exact hps
  have hfinish := Option.isNone_iff_eq_none.1 hnodes.1
  have heq := Node.eq_of_agreesAll hnodes.2
  simp [parse?, hpieces, hb, hfinish, heq]

end Template

end GoScaffold
