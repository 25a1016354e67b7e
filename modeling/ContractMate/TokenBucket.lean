import Mathlib

/-!
# Token buckets

A bucket refills at a constant rate up to its capacity, and a charge is admitted
when the bucket holds its units up to a tolerance.  Whatever charges a bucket
admits, the units charged in an interval of time never exceed one capacity, the
refill of the interval and one tolerance.
-/

namespace TokenBucket

/-- Capacity, refill rate and tolerance of a bucket. -/
structure Shape (Time : Type) where
  capacity : Time
  rate : Time
  tolerance : Time

/-- What a bucket remembers: its tokens after the last charge, and when that was. -/
structure Bucket (Time : Type) where
  tokens : Time
  updatedAt : Time
deriving DecidableEq, Repr

/-- An admitted charge. -/
structure Charge (Time : Type) where
  time : Time
  units : Time
deriving DecidableEq, Repr

variable {Time : Type} [Field Time] [LinearOrder Time]

namespace Shape

/-- The tokens of a bucket at some later time. -/
def level (shape : Shape Time) (bucket : Bucket Time) (now : Time) : Time :=
  min shape.capacity
    (bucket.tokens + (now - min bucket.updatedAt now) * shape.rate)

/-- The bucket after a charge. -/
def debit (shape : Shape Time) (bucket : Bucket Time) (charge : Charge Time) :
    Bucket Time where
  tokens := shape.level bucket charge.time - charge.units
  updatedAt := charge.time

/-- The charges come in order of time and are admitted one after the other. -/
def Admits (shape : Shape Time) : Bucket Time → List (Charge Time) → Prop
  | _, [] => True
  | bucket, charge :: charges =>
      bucket.updatedAt ≤ charge.time ∧
        charge.units ≤ shape.level bucket charge.time + shape.tolerance ∧
        shape.Admits (shape.debit bucket charge) charges

/-- The bucket after some charges. -/
def debits (shape : Shape Time) (bucket : Bucket Time)
    (charges : List (Charge Time)) : Bucket Time :=
  charges.foldl shape.debit bucket

/-- There is room for `units` beside some charges: from each charge on they come
to no more than the capacity, the refill since that charge and the tolerance. -/
def Room (shape : Shape Time) (units now : Time) : List (Charge Time) → Prop
  | [] => units ≤ shape.capacity + shape.tolerance
  | charge :: charges =>
      ((charge :: charges).map Charge.units).sum + units ≤
          shape.capacity + (now - charge.time) * shape.rate + shape.tolerance ∧
        shape.Room units now charges

instance decidableRoom (shape : Shape Time) (units now : Time) :
    (charges : List (Charge Time)) → Decidable (shape.Room units now charges)
  | [] => inferInstanceAs (Decidable (_ ≤ _))
  | _ :: charges =>
      have : Decidable (shape.Room units now charges) :=
        decidableRoom shape units now charges
      inferInstanceAs (Decidable (_ ∧ _))

end Shape

/-- The units charged from `start` to `stop`. -/
def spent (charges : List (Charge Time)) (start stop : Time) : Time :=
  ((charges.filter fun charge =>
    start ≤ charge.time ∧ charge.time ≤ stop).map Charge.units).sum

@[simp]
theorem spent_nil (start stop : Time) :
    spent ([] : List (Charge Time)) start stop = 0 :=
  rfl

theorem spent_cons (charge : Charge Time) (charges : List (Charge Time))
    (start stop : Time) :
    spent (charge :: charges) start stop =
      (if start ≤ charge.time ∧ charge.time ≤ stop then charge.units else 0) +
        spent charges start stop := by
  unfold spent
  by_cases inside : start ≤ charge.time ∧ charge.time ≤ stop
  · simp [inside]
  · simp [inside]

section Bounds

variable {shape : Shape Time} {bucket : Bucket Time}
  {charges : List (Charge Time)} {charge : Charge Time}
  {start now later stop : Time}

theorem level_le_capacity : shape.level bucket now ≤ shape.capacity :=
  min_le_left _ _

theorem level_of_updated (updated : bucket.updatedAt ≤ now) :
    shape.level bucket now =
      min shape.capacity
        (bucket.tokens + (now - bucket.updatedAt) * shape.rate) := by
  rw [Shape.level, min_eq_left updated]

theorem debits_append (first second : List (Charge Time)) :
    shape.debits bucket (first ++ second) =
      shape.debits (shape.debits bucket first) second :=
  List.foldl_append

theorem admits_append {first second : List (Charge Time)} :
    shape.Admits bucket (first ++ second) ↔
      shape.Admits bucket first ∧
        shape.Admits (shape.debits bucket first) second := by
  induction first generalizing bucket with
  | nil => simp [Shape.Admits, Shape.debits]
  | cons charge charges induction =>
      simp only [List.cons_append, Shape.Admits, induction, Shape.debits,
        List.foldl_cons]
      tauto

/-- Charges are admitted at no earlier time than the bucket's. -/
theorem le_time_of_admits (admits : shape.Admits bucket charges)
    (member : charge ∈ charges) : bucket.updatedAt ≤ charge.time := by
  induction charges generalizing bucket with
  | nil => cases member
  | cons first rest induction =>
      obtain ⟨ordered, _, admitted⟩ := admits
      rcases List.mem_cons.mp member with rfl | inRest
      · exact ordered
      · exact ordered.trans (induction admitted inRest)

/-- Nothing is spent in an interval before the bucket's time. -/
theorem spent_eq_zero (admits : shape.Admits bucket charges)
    (early : stop < bucket.updatedAt) : spent charges start stop = 0 := by
  have none_inside : charges.filter (fun charge =>
      start ≤ charge.time ∧ charge.time ≤ stop) = [] := by
    rw [List.filter_eq_nil_iff]
    intro charge member inside
    have late := le_time_of_admits admits member
    have inside : start ≤ charge.time ∧ charge.time ≤ stop := by
      simpa using inside
    exact absurd (early.trans_le late) (not_lt.mpr inside.2)
  rw [spent, none_inside]
  rfl

/-- An interval may as well start at the bucket's time. -/
theorem spent_eq_of_le (admits : shape.Admits bucket charges)
    (early : start ≤ bucket.updatedAt) :
    spent charges start stop = spent charges bucket.updatedAt stop := by
  unfold spent
  congr 2
  apply List.filter_congr
  intro charge member
  have late := le_time_of_admits admits member
  have started := early.trans late
  simp [late, started]

variable [IsStrictOrderedRing Time]

theorem level_mono_rate (nonneg : 0 ≤ shape.rate)
    (updated : bucket.updatedAt ≤ now) (after : now ≤ later) :
    shape.level bucket later ≤
      shape.level bucket now + (later - now) * shape.rate := by
  rw [level_of_updated updated, level_of_updated (updated.trans after)]
  have refill : 0 ≤ (later - now) * shape.rate :=
    mul_nonneg (sub_nonneg.mpr after) nonneg
  rw [min_add]
  apply le_min
  · exact (min_le_left _ _).trans (le_add_of_nonneg_right refill)
  · refine (min_le_right _ _).trans (le_of_eq ?_)
    ring

/-- A charge never leaves more tokens than there were without it. -/
theorem level_debit_le (units : 0 ≤ charge.units)
    (updated : bucket.updatedAt ≤ charge.time) (after : charge.time ≤ now) :
    shape.level (shape.debit bucket charge) now ≤ shape.level bucket now := by
  rw [level_of_updated (updated.trans after),
    level_of_updated (show (shape.debit bucket charge).updatedAt ≤ now from
      after)]
  apply min_le_min_left
  have before : shape.level bucket charge.time ≤
      bucket.tokens + (charge.time - bucket.updatedAt) * shape.rate := by
    rw [level_of_updated updated]
    exact min_le_right _ _
  have split : (now - bucket.updatedAt) * shape.rate =
      (charge.time - bucket.updatedAt) * shape.rate +
        (now - charge.time) * shape.rate := by ring
  simp only [Shape.debit]
  linarith

omit [IsStrictOrderedRing Time] in
theorem level_debit_self :
    shape.level (shape.debit bucket charge) charge.time ≤
      shape.level bucket charge.time - charge.units := by
  rw [level_of_updated (show (shape.debit bucket charge).updatedAt ≤
    charge.time from le_refl _)]
  refine (min_le_right _ _).trans (le_of_eq ?_)
  simp [Shape.debit]

/-- What a bucket holds after its charges, in terms of the charges. -/
theorem le_level_debits_iff {units : Time} (admits : shape.Admits bucket charges)
    (last : (shape.debits bucket charges).updatedAt ≤ now) :
    units ≤ shape.level (shape.debits bucket charges) now + shape.tolerance ↔
      (charges.map Charge.units).sum + units ≤
          bucket.tokens + (now - bucket.updatedAt) * shape.rate +
            shape.tolerance ∧
        shape.Room units now charges := by
  induction charges generalizing bucket with
  | nil =>
      have updated : bucket.updatedAt ≤ now := last
      simp only [Shape.debits, List.foldl_nil, level_of_updated updated,
        Shape.Room, List.map_nil, List.sum_nil, zero_add, min_add, le_min_iff]
      exact and_comm
  | cons charge rest induction =>
      obtain ⟨ordered, _, admits⟩ := admits
      have tail := induction admits last
      have split : (now - bucket.updatedAt) * shape.rate =
          (charge.time - bucket.updatedAt) * shape.rate +
            (now - charge.time) * shape.rate := by ring
      have tokens : (shape.debit bucket charge).tokens =
          min shape.capacity
            (bucket.tokens + (charge.time - bucket.updatedAt) * shape.rate) -
            charge.units := by
        rw [Shape.debit, level_of_updated ordered]
      have time : (shape.debit bucket charge).updatedAt = charge.time := rfl
      rw [tokens, time] at tail
      change units ≤ shape.level (shape.debits (shape.debit bucket charge) rest)
        now + shape.tolerance ↔ _
      rw [tail, split]
      simp only [Shape.Room, List.map_cons, List.sum_cons]
      constructor
      · rintro ⟨enough, room⟩
        have full := min_le_left shape.capacity
          (bucket.tokens + (charge.time - bucket.updatedAt) * shape.rate)
        have partly := min_le_right shape.capacity
          (bucket.tokens + (charge.time - bucket.updatedAt) * shape.rate)
        exact ⟨by linarith, by linarith, room⟩
      · rintro ⟨partly, full, room⟩
        refine ⟨?_, room⟩
        rcases min_choice shape.capacity
          (bucket.tokens + (charge.time - bucket.updatedAt) * shape.rate) with
          smaller | smaller
        · rw [smaller]
          linarith
        · rw [smaller]
          linarith

/-- A bucket that was full at the start holds some units exactly if there is room
for them beside its charges. -/
theorem le_level_debits_full_iff {units : Time} (nonneg : 0 ≤ shape.rate)
    (admits : shape.Admits ⟨shape.capacity, start⟩ charges)
    (started : start ≤ now)
    (last : (shape.debits ⟨shape.capacity, start⟩ charges).updatedAt ≤ now) :
    units ≤ shape.level (shape.debits ⟨shape.capacity, start⟩ charges) now +
        shape.tolerance ↔
      shape.Room units now charges := by
  rw [le_level_debits_iff admits last]
  refine ⟨fun both => both.2, fun room => ⟨?_, room⟩⟩
  cases charges with
  | nil =>
      have enough : units ≤ shape.capacity + shape.tolerance := room
      have refill : 0 ≤ (now - start) * shape.rate :=
        mul_nonneg (sub_nonneg.mpr started) nonneg
      simp only [List.map_nil, List.sum_nil, zero_add]
      linarith
  | cons charge rest =>
      have enough := room.1
      have shorter : (now - charge.time) * shape.rate ≤
          (now - start) * shape.rate :=
        mul_le_mul_of_nonneg_right (sub_le_sub_left admits.1 now) nonneg
      simp only at shorter ⊢
      linarith

/-- A bucket is never overdrawn by more than the tolerance. -/
structure Sound (shape : Shape Time) (bucket : Bucket Time) : Prop where
  rate : 0 ≤ shape.rate
  tolerance : 0 ≤ shape.tolerance
  capacity : 0 ≤ shape.capacity
  tokens : -shape.tolerance ≤ bucket.tokens

theorem Sound.level (sound : Sound shape bucket)
    (updated : bucket.updatedAt ≤ now) :
    -shape.tolerance ≤ shape.level bucket now := by
  rw [level_of_updated updated]
  have refill : 0 ≤ (now - bucket.updatedAt) * shape.rate :=
    mul_nonneg (sub_nonneg.mpr updated) sound.rate
  have tokens := sound.tokens
  have tolerance := sound.tolerance
  have capacity := sound.capacity
  apply le_min <;> linarith

theorem Sound.debit (sound : Sound shape bucket)
    (admitted : charge.units ≤
      shape.level bucket charge.time + shape.tolerance) :
    Sound shape (shape.debit bucket charge) where
  rate := sound.rate
  tolerance := sound.tolerance
  capacity := sound.capacity
  tokens := by
    simp only [Shape.debit]
    linarith

/-- From any moment on, a bucket admits no more than its tokens, their refill and
the tolerance. -/
theorem spent_le_level (sound : Sound shape bucket)
    (units : ∀ charge ∈ charges, 0 ≤ charge.units)
    (admits : shape.Admits bucket charges) (updated : bucket.updatedAt ≤ start)
    (ordered : start ≤ stop) :
    spent charges start stop ≤
      shape.level bucket start + (stop - start) * shape.rate +
        shape.tolerance := by
  induction charges generalizing bucket start with
  | nil =>
      have level := sound.level updated
      have refill : 0 ≤ (stop - start) * shape.rate :=
        mul_nonneg (sub_nonneg.mpr ordered) sound.rate
      rw [spent_nil]
      linarith
  | cons charge rest induction =>
      obtain ⟨later, admitted, admits⟩ := admits
      have nonneg := units charge (by simp)
      have restUnits (other : Charge Time) (member : other ∈ rest) :
          0 ≤ other.units := units other (List.mem_cons_of_mem _ member)
      have soundAfter := sound.debit admitted
      rw [spent_cons]
      rcases lt_or_ge charge.time start with before | inside
      · -- The charge precedes the interval and can only lower the level.
        rw [if_neg (fun both => absurd both.1 (not_le.mpr before)), zero_add]
        have bound := induction soundAfter restUnits admits before.le ordered
        have lower : shape.level (shape.debit bucket charge) start ≤
            shape.level bucket start := level_debit_le nonneg later before.le
        linarith
      · rcases le_or_gt charge.time stop with within | after
        · rw [if_pos ⟨inside, within⟩,
            spent_eq_of_le admits (show start ≤
              (shape.debit bucket charge).updatedAt from inside)]
          have bound := induction soundAfter restUnits admits
            (le_refl (shape.debit bucket charge).updatedAt) within
          have paid : shape.level (shape.debit bucket charge) charge.time ≤
              shape.level bucket charge.time - charge.units :=
            level_debit_self
          have refilled := level_mono_rate sound.rate updated inside
          have split : (stop - start) * shape.rate =
              (charge.time - start) * shape.rate +
                (stop - charge.time) * shape.rate := by ring
          simp only [Shape.debit] at bound paid ⊢
          linarith
        · rw [if_neg (fun both => absurd both.2 (not_le.mpr after)),
            spent_eq_zero admits after, zero_add]
          have level := sound.level updated
          have refill : 0 ≤ (stop - start) * shape.rate :=
            mul_nonneg (sub_nonneg.mpr ordered) sound.rate
          linarith

/-- The bound on admission over an arbitrary interval. -/
theorem spent_le (sound : Sound shape bucket)
    (units : ∀ charge ∈ charges, 0 ≤ charge.units)
    (admits : shape.Admits bucket charges) (ordered : start ≤ stop) :
    spent charges start stop ≤
      shape.capacity + (stop - start) * shape.rate + shape.tolerance := by
  rcases le_total bucket.updatedAt start with updated | early
  · have bound := spent_le_level sound units admits updated ordered
    have level : shape.level bucket start ≤ shape.capacity := level_le_capacity
    linarith
  · have refill : 0 ≤ (stop - start) * shape.rate :=
      mul_nonneg (sub_nonneg.mpr ordered) sound.rate
    rcases le_or_gt bucket.updatedAt stop with within | after
    · rw [spent_eq_of_le admits early]
      have bound := spent_le_level sound units admits (le_refl _) within
      have level : shape.level bucket bucket.updatedAt ≤ shape.capacity :=
        level_le_capacity
      have shorter : (stop - bucket.updatedAt) * shape.rate ≤
          (stop - start) * shape.rate :=
        mul_le_mul_of_nonneg_right (by linarith) sound.rate
      linarith
    · rw [spent_eq_zero admits after]
      have capacity := sound.capacity
      have tolerance := sound.tolerance
      linarith

end Bounds

end TokenBucket
