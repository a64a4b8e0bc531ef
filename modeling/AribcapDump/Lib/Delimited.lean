import Mathlib.Data.List.Basic
import Mathlib.Tactic.Common
import Mathlib.Tactic.TypeStar

/-!
# Texts that are read back in one way

Four ways to write a sequence so that it, and what follows it, can be told from
the text.

* `split_at_first`: elements of a class, up to the first that is not of it.
* `PrefixFree.flatMap_close`: code words none of which begins another, and a closing symbol that begins none.
* `flatMap_sep_close`: items each after a separator, and a closing symbol.
* `terminated_inj`: items each before a terminator; `terminated_of_prefix`: the first part of them.

`ReadsBack write follow a` says that of one value: no other value is written
alike, as long as what follows both is of the kind `follow`.
-/

namespace Delimited

variable {α β : Type*}

/-- The text of `a` and what follows it determine `a` and what follows. -/
def ReadsBack (write : α → List β) (follow : List β → Prop) (a : α) : Prop :=
  ∀ a' t t', follow t → follow t' → write a ++ t = write a' ++ t' → a = a' ∧ t = t'

theorem ReadsBack.mono {write : α → List β} {follow follow' : List β → Prop} {a : α} (h : ReadsBack write follow a)
    (hfollow : ∀ t, follow' t → follow t) : ReadsBack write follow' a :=
  fun a' t t' ht ht' heq => h a' t t' (hfollow t ht) (hfollow t' ht') heq

theorem split_at_first {p : β → Prop} {xs xs' t t' : List β} (hxs : ∀ x ∈ xs, p x) (hxs' : ∀ x ∈ xs', p x)
    (ht : ∀ x ∈ t.head?, ¬ p x) (ht' : ∀ x ∈ t'.head?, ¬ p x) (h : xs ++ t = xs' ++ t') : xs = xs' ∧ t = t' := by
  induction xs generalizing xs' with
  | nil =>
    cases xs' with
    | nil => exact ⟨rfl, h⟩
    | cons x' xs' =>
      have hhead : t.head? = some x' := by rw [← List.nil_append t, h, List.cons_append, List.head?_cons]
      exact absurd (hxs' x' List.mem_cons_self) (ht x' hhead)
  | cons x xs ih =>
    cases xs' with
    | nil =>
      have hhead : t'.head? = some x := by rw [← List.nil_append t', ← h, List.cons_append, List.head?_cons]
      exact absurd (hxs x List.mem_cons_self) (ht' x hhead)
    | cons x' xs' =>
      rw [List.cons_append, List.cons_append] at h
      obtain ⟨rfl, htail⟩ := List.cons.inj h
      obtain ⟨rfl, rfl⟩ := ih (fun y hy => hxs y (List.mem_cons_of_mem _ hy))
        (fun y hy => hxs' y (List.mem_cons_of_mem _ hy)) htail
      exact ⟨rfl, rfl⟩

/-- No code word begins another. -/
def PrefixFree (code : α → List β) : Prop := ∀ a a', code a <+: code a' → a = a'

theorem PrefixFree.split {code : α → List β} (hfree : PrefixFree code) {a a' : α} {t t' : List β}
    (h : code a ++ t = code a' ++ t') : a = a' ∧ t = t' := by
  have heq : a = a' := by
    rcases List.prefix_or_prefix_of_prefix (List.prefix_append (code a) t) (h ▸ List.prefix_append (code a') t') with
      hle | hle
    · exact hfree a a' hle
    · exact (hfree a' a hle).symm
  subst heq
  exact ⟨rfl, List.append_cancel_left h⟩

theorem PrefixFree.flatMap_close {code : α → List β} (hfree : PrefixFree code) {close : β}
    (hfirst : ∀ a, ∃ b word, code a = b :: word ∧ b ≠ close) {xs xs' : List α} {t t' : List β}
    (h : xs.flatMap code ++ close :: t = xs'.flatMap code ++ close :: t') : xs = xs' ∧ t = t' := by
  induction xs generalizing xs' with
  | nil =>
    cases xs' with
    | nil => exact ⟨rfl, (List.cons.inj h).2⟩
    | cons x' xs' =>
      obtain ⟨b, word, hword, hne⟩ := hfirst x'
      rw [List.flatMap_cons, hword] at h
      exact absurd (List.cons.inj h).1.symm hne
  | cons x xs ih =>
    cases xs' with
    | nil =>
      obtain ⟨b, word, hword, hne⟩ := hfirst x
      rw [List.flatMap_cons, hword] at h
      exact absurd (List.cons.inj h).1 hne
    | cons x' xs' =>
      rw [List.flatMap_cons, List.flatMap_cons, List.append_assoc, List.append_assoc] at h
      obtain ⟨rfl, htail⟩ := hfree.split h
      obtain ⟨rfl, rfl⟩ := ih htail
      exact ⟨rfl, rfl⟩

/-- A separator or the closing symbol comes next. -/
def Continues (sep close : β) (t : List β) : Prop := t.head? = some sep ∨ t.head? = some close

theorem continues_flatMap (write : α → List β) (sep close : β) (xs : List α) (t : List β) :
    Continues sep close (xs.flatMap (sep :: write ·) ++ close :: t) := by
  cases xs with
  | nil => exact .inr rfl
  | cons x xs => exact .inl rfl

theorem flatMap_sep_close {write : α → List β} {sep close : β} (hne : sep ≠ close) {xs xs' : List α}
    (hxs : ∀ x ∈ xs, ReadsBack write (Continues sep close) x) {t t' : List β}
    (h : xs.flatMap (sep :: write ·) ++ close :: t = xs'.flatMap (sep :: write ·) ++ close :: t') :
    xs = xs' ∧ t = t' := by
  induction xs generalizing xs' with
  | nil =>
    cases xs' with
    | nil => exact ⟨rfl, (List.cons.inj h).2⟩
    | cons x' xs' =>
      rw [List.flatMap_cons] at h
      exact absurd (List.cons.inj h).1.symm hne
  | cons x xs ih =>
    cases xs' with
    | nil =>
      rw [List.flatMap_cons] at h
      exact absurd (List.cons.inj h).1 hne
    | cons x' xs' =>
      rw [List.flatMap_cons, List.flatMap_cons, List.append_assoc, List.append_assoc, List.cons_append,
        List.cons_append] at h
      obtain ⟨rfl, htail⟩ := hxs x List.mem_cons_self x' _ _ (continues_flatMap write sep close xs t)
        (continues_flatMap write sep close xs' t') (List.cons.inj h).2
      obtain ⟨rfl, rfl⟩ := ih (fun y hy => hxs y (List.mem_cons_of_mem _ hy)) htail
      exact ⟨rfl, rfl⟩

/-! ## Terminated items -/

section Terminated

variable {write : α → List β} {sep : β} (hsep : ∀ a, sep ∉ write a)
include hsep

/-- The first part of terminated items is whole items and a part with no terminator. -/
theorem terminated_of_prefix {xs : List α} {bs : List β} (h : bs <+: xs.flatMap (write · ++ [sep])) :
    ∃ whole rest part, xs = whole ++ rest ∧ bs = whole.flatMap (write · ++ [sep]) ++ part ∧ sep ∉ part := by
  induction xs generalizing bs with
  | nil => exact ⟨[], [], [], rfl, List.prefix_nil.mp h, List.not_mem_nil⟩
  | cons x xs ih =>
    rw [List.flatMap_cons] at h
    rcases List.prefix_or_prefix_of_prefix h (List.prefix_append _ _) with hshort | ⟨more, rfl⟩
    · rcases List.prefix_concat_iff.mp hshort with rfl | hpart
      · exact ⟨[x], xs, [], rfl, by simp, List.not_mem_nil⟩
      · exact ⟨[], x :: xs, bs, rfl, rfl, fun hmem => hsep x (hpart.subset hmem)⟩
    · obtain ⟨whole, rest, part, rfl, rfl, hpart⟩ := ih ((List.prefix_append_right_inj _).mp h)
      exact ⟨x :: whole, rest, part, rfl, by rw [List.flatMap_cons, List.append_assoc (write x ++ [sep])], hpart⟩

/-- Terminated items, and what follows without a terminator, are read in one way. -/
theorem terminated_inj {xs xs' : List α} (hwrite : ∀ x ∈ xs, ∀ x' ∈ xs', write x = write x' → x = x')
    {t t' : List β} (ht : sep ∉ t) (ht' : sep ∉ t')
    (h : xs.flatMap (write · ++ [sep]) ++ t = xs'.flatMap (write · ++ [sep]) ++ t') :
    xs = xs' ∧ t = t' := by
  have hhead : ∀ (x : α) (xs : List α) (t : List β),
      (x :: xs).flatMap (write · ++ [sep]) ++ t = write x ++ sep :: (xs.flatMap (write · ++ [sep]) ++ t) := by
    intro x xs t
    simp
  induction xs generalizing xs' with
  | nil =>
    cases xs' with
    | nil => exact ⟨rfl, h⟩
    | cons x' xs' =>
      rw [hhead, List.flatMap_nil, List.nil_append] at h
      exact absurd (h ▸ by simp) ht
  | cons x xs ih =>
    cases xs' with
    | nil =>
      rw [hhead, List.flatMap_nil, List.nil_append] at h
      exact absurd (h ▸ by simp) ht'
    | cons x' xs' =>
      rw [hhead, hhead] at h
      obtain ⟨hx, htail⟩ := split_at_first (p := (· ≠ sep)) (fun b hb hbsep => hsep x (hbsep ▸ hb))
        (fun b hb hbsep => hsep x' (hbsep ▸ hb)) (by simp) (by simp) h
      obtain ⟨rfl, rfl⟩ := ih (fun y hy y' hy' => hwrite y (List.mem_cons_of_mem _ hy) y' (List.mem_cons_of_mem _ hy'))
        (List.cons.inj htail).2
      exact ⟨by rw [hwrite x List.mem_cons_self x' List.mem_cons_self hx], rfl⟩

end Terminated

end Delimited
