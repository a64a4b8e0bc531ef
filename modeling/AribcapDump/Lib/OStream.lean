import Mathlib.Data.List.Basic
import Mathlib.Tactic.Common

/-!
# Output streams

A stream writes through a buffer to a device.  A buffer takes the items of an
insertion, or the first of them only, and lets some of what it holds through to
the device; a flush must let all of it through.  When either falls short the
stream is bad, and then nothing is inserted or flushed any more.

* `run_of_not_good`: a bad stream stays as it is.
* `sent_run_of_good`: a stream that is still good has sent everything.
* `sent_run_prefix`: a stream has sent the first part of everything, whatever failed.
-/

/-- What a buffer does, as a function of everything that went through it: how many items of an insertion it takes, how
many of the items it then holds it lets through, and how many in a flush. -/
structure StreamBuf (α : Type*) where
  takes (written buffered items : List α) : ℕ
  overflows (written buffered : List α) : ℕ
  syncs (written buffered : List α) : ℕ

/-- What the device has got, what the buffer holds, and whether every operation so far succeeded. -/
structure OStream (α : Type*) where
  written : List α := []
  buffered : List α := []
  good : Bool := true
deriving DecidableEq

namespace OStream

variable {α : Type*}

/-- What was taken from the insertions. -/
def sent (s : OStream α) : List α := s.written ++ s.buffered

/-- The first `n` buffered items reach the device. -/
def drain (s : OStream α) (n : ℕ) : OStream α :=
  { s with written := s.written ++ s.buffered.take n, buffered := s.buffered.drop n }

variable (buf : StreamBuf α)

def insert (s : OStream α) (items : List α) : OStream α :=
  if s.good then
    let taken := items.take (buf.takes s.written s.buffered items)
    let s := { s with buffered := s.buffered ++ taken, good := decide (taken.length = items.length) }
    s.drain (buf.overflows s.written s.buffered)
  else s

def flush (s : OStream α) : OStream α :=
  if s.good then
    let s := s.drain (buf.syncs s.written s.buffered)
    { s with good := s.buffered.isEmpty }
  else s

/-- What is done to a stream. -/
inductive Op (α : Type*)
  | insert (items : List α)
  | flush

def perform (s : OStream α) : Op α → OStream α
  | .insert items => s.insert buf items
  | .flush => s.flush buf

def run (s : OStream α) (ops : List (Op α)) : OStream α := ops.foldl (perform buf) s

/-- What an operation is given to send. -/
def Op.items : Op α → List α
  | .insert items => items
  | .flush => []

@[simp] theorem run_nil (s : OStream α) : s.run buf [] = s := rfl

theorem run_cons (s : OStream α) (op : Op α) (ops : List (Op α)) :
    s.run buf (op :: ops) = (s.perform buf op).run buf ops := rfl

theorem run_append (s : OStream α) (ops ops' : List (Op α)) : s.run buf (ops ++ ops') = (s.run buf ops).run buf ops' :=
  List.foldl_append

variable {buf} {s : OStream α}

theorem perform_of_not_good (h : s.good = false) (op : Op α) : s.perform buf op = s := by
  cases op <;> simp [perform, insert, flush, h]

/-- **A bad stream** stays as it is. -/
theorem run_of_not_good (h : s.good = false) (ops : List (Op α)) : s.run buf ops = s := by
  induction ops with
  | nil => rfl
  | cons op ops ih => rw [run_cons, perform_of_not_good h, ih]

variable (buf s) in
/-- What one operation sends: what it is given, or the first part of it. -/
theorem sent_perform (op : Op α) :
    ∃ part, part <+: op.items ∧ (s.perform buf op).sent = s.sent ++ part ∧
      ((s.perform buf op).good = true → part = op.items) := by
  cases hgood : s.good with
  | false =>
    refine ⟨[], List.nil_prefix, ?_, fun h => ?_⟩
    · rw [perform_of_not_good hgood, List.append_nil]
    · rw [perform_of_not_good hgood, hgood] at h
      cases h
  | true =>
    cases op with
    | insert items =>
      refine ⟨items.take (buf.takes s.written s.buffered items), List.take_prefix _ _, ?_, fun h => ?_⟩
      · simp [perform, insert, hgood, sent, drain]
      · simp only [perform, insert, hgood, if_true, drain, decide_eq_true_eq] at h
        exact (List.take_prefix _ _).eq_of_length h
    | flush =>
      refine ⟨[], List.nil_prefix, ?_, fun _ => rfl⟩
      simp [perform, flush, hgood, sent, drain]

theorem good_of_run {ops : List (Op α)} (h : (s.run buf ops).good = true) : s.good = true := by
  rw [← Bool.not_eq_false]
  intro hbad
  rw [run_of_not_good hbad, hbad] at h
  cases h

/-- **A stream that is still good** has sent everything. -/
theorem sent_run_of_good {ops : List (Op α)} (h : (s.run buf ops).good = true) :
    (s.run buf ops).sent = s.sent ++ ops.flatMap Op.items := by
  induction ops generalizing s with
  | nil => simp
  | cons op ops ih =>
    obtain ⟨part, -, hsent, hall⟩ := sent_perform buf s op
    rw [run_cons] at h ⊢
    rw [ih h, hsent, hall (good_of_run h), List.flatMap_cons, List.append_assoc]

/-- **A stream** has sent the first part of everything. -/
theorem sent_run_prefix (ops : List (Op α)) : (s.run buf ops).sent <+: s.sent ++ ops.flatMap Op.items := by
  induction ops generalizing s with
  | nil => simp
  | cons op ops ih =>
    obtain ⟨part, hpart, hsent, hall⟩ := sent_perform buf s op
    rw [run_cons, List.flatMap_cons, ← List.append_assoc]
    cases hgood : (s.perform buf op).good with
    | true =>
      rw [← hall hgood, ← hsent]
      exact ih
    | false =>
      rw [run_of_not_good hgood, hsent]
      exact ((List.prefix_append_right_inj _).mpr hpart).trans (List.prefix_append _ _)

/-- After a flush that succeeds the device has got everything. -/
theorem buffered_of_flush (h : (s.flush buf).good = true) : (s.flush buf).buffered = [] := by
  cases hgood : s.good with
  | false => simp [flush, hgood] at h
  | true =>
    simp only [flush, hgood, if_true] at h ⊢
    exact List.isEmpty_iff.mp h

end OStream
