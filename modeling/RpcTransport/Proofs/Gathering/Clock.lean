import RpcTransport.Proofs.Gathering.Timeline

/-!
How time passes on a timeline. Alarms are set in the order of their deadlines, so they ring in the
same order at whatever moments one looks at the time. A moment that is passed on the way, because
some caller gives up then, leaves no trace in what is sent.
-/

namespace RpcTransport.Gathering.Timeline

/-! ### Ringing -/

section Ringing

variable (t : Timeline) (alarm : Alarm) (due alarms : List Alarm) (now : Nat)

/-- Ringing looks neither at the time nor at the other alarms. -/
theorem ring_with :
    ring { t with now := now, alarms := alarms } alarm =
      { t.ring alarm with now := now, alarms := alarms } := by
  simp only [ring, sendSome]
  cases (t.gatherer.wake alarm.generation).1 <;> rfl

theorem foldl_ring_with :
    due.foldl ring { t with now := now, alarms := alarms } =
      { due.foldl ring t with now := now, alarms := alarms } := by
  induction due generalizing t with
  | nil => rfl
  | cons alarm due inductionHypothesis =>
      rw [List.foldl_cons, List.foldl_cons, ring_with, inductionHypothesis]

/-- Letting alarms ring in one equation: the time stands still, and the alarms that are not due
stay. -/
theorem ringAll_eq (isDue : Alarm → Bool) :
    t.ringAll isDue =
      { (t.alarms.filter isDue).foldl ring t with
        now := t.now, alarms := t.alarms.filter fun alarm => !isDue alarm } :=
  foldl_ring_with t _ _ t.now

theorem ringAll_with_now (isDue : Alarm → Bool) :
    ringAll isDue { t with now := now } = { t.ringAll isDue with now := now } := by
  simp only [ringAll_eq]
  rw [show ({ t with now := now } : Timeline) = { t with now := now, alarms := t.alarms } from rfl,
    foldl_ring_with]

@[simp]
theorem elapse_now (time : Nat) : (t.elapse time).now = max t.now time := by
  simp [elapse, ringAll_eq]

@[simp]
theorem elapse_alarms (time : Nat) :
    (t.elapse time).alarms = t.alarms.filter fun alarm => !decide (alarm.deadline < time) := by
  simp [elapse, ringAll_eq]

/-- Ringing opens no window. -/
theorem ring_nextGeneration :
    (t.ring alarm).gatherer.nextGeneration = t.gatherer.nextGeneration := by
  simp only [ring, sendSome_gatherer, Gatherer.wake]
  split
  · split <;> rfl
  · rfl

theorem foldl_ring_nextGeneration :
    (due.foldl ring t).gatherer.nextGeneration = t.gatherer.nextGeneration := by
  induction due generalizing t with
  | nil => rfl
  | cons alarm due inductionHypothesis =>
      rw [List.foldl_cons, inductionHypothesis, ring_nextGeneration]

@[simp]
theorem elapse_nextGeneration (time : Nat) :
    (t.elapse time).gatherer.nextGeneration = t.gatherer.nextGeneration := by
  simp only [elapse, ringAll_eq]
  exact foldl_ring_nextGeneration t _

end Ringing

/-! ### Timelines in order -/

/-- The alarms of a timeline come in the order of their deadlines, and none is later than one that
is set now would be. Each is the alarm of a window that has been opened. -/
structure Orderly (limits : Limits) (t : Timeline) : Prop where
  sorted : t.alarms.Pairwise fun first second => first.deadline ≤ second.deadline
  bounded : ∀ alarm ∈ t.alarms, alarm.deadline ≤ endOfWait t.now limits.wait
  numbered : ∀ alarm ∈ t.alarms, alarm.generation < t.gatherer.nextGeneration

section Orderly

variable {limits : Limits} {t u : Timeline} {time later : Nat}

theorem endOfWait_mono (earlier : time ≤ later) (wait : Nat) :
    endOfWait time wait ≤ endOfWait later wait :=
  Nat.add_le_add_right earlier _

theorem Orderly.empty : Orderly limits {} where
  sorted := List.Pairwise.nil
  bounded := by simp
  numbered := by simp

theorem Orderly.elapse (orderly : t.Orderly limits) (time : Nat) :
    (t.elapse time).Orderly limits where
  sorted := by
    rw [elapse_alarms]
    exact orderly.sorted.filter _
  bounded := by
    intro alarm member
    rw [elapse_alarms] at member
    rw [elapse_now]
    exact Nat.le_trans (orderly.bounded alarm (List.mem_of_mem_filter member))
      (endOfWait_mono (Nat.le_max_left _ _) _)
  numbered := by
    intro alarm member
    rw [elapse_alarms] at member
    rw [elapse_nextGeneration]
    exact orderly.numbered alarm (List.mem_of_mem_filter member)

/-- The time does not change while a request joins. -/
@[simp]
theorem join_now (limits : Limits) (request : Request) (t : Timeline) :
    (t.join limits request).2.now = t.now := by
  simp only [join, sendSome]
  cases (t.gatherer.join limits request).1.filled <;> rfl

/-- A window that is opened is numbered with the next number. -/
theorem Orderly.join (orderly : t.Orderly limits) (request : Request) :
    (t.join limits request).2.Orderly limits := by
  have opened : ∀ generation ∈ (t.gatherer.join limits request).1.opened,
      generation = t.gatherer.nextGeneration ∧ t.gatherer.window = none := by
    intro generation isOpened
    rw [Option.mem_def, Gatherer.join_opened] at isOpened
    cases noWindow : t.gatherer.window with
    | none => simpa [noWindow, Gatherer.current, eq_comm] using isOpened
    | some window => simp [noWindow] at isOpened
  constructor
  · simp only [Timeline.join, sendSome_alarms]
    rw [List.pairwise_append]
    refine ⟨orderly.sorted, ?_, ?_⟩
    · cases (t.gatherer.join limits request).1.opened <;> simp
    · intro alarm member new isNew
      obtain ⟨generation, _, rfl⟩ := List.mem_map.mp isNew
      exact orderly.bounded alarm member
  · intro alarm member
    simp only [Timeline.join, sendSome_alarms, List.mem_append] at member
    rw [join_now]
    rcases member with earlier | isNew
    · exact orderly.bounded alarm earlier
    · obtain ⟨generation, _, rfl⟩ := List.mem_map.mp isNew
      exact Nat.le_refl _
  · intro alarm member
    simp only [Timeline.join, sendSome_alarms, List.mem_append] at member
    simp only [Timeline.join, sendSome_gatherer, Gatherer.join_nextGeneration]
    rcases member with earlier | isNew
    · exact Nat.lt_of_lt_of_le (orderly.numbered alarm earlier) (Nat.le_add_right _ _)
    · obtain ⟨generation, isOpened, rfl⟩ := List.mem_map.mp isNew
      obtain ⟨rfl, noWindow⟩ := opened generation (Option.mem_toList.mp isOpened)
      simp [noWindow]

theorem Orderly.joinAll (orderly : t.Orderly limits) (requests : List Request) :
    (t.joinAll limits requests).2.Orderly limits := by
  induction requests generalizing t with
  | nil => exact orderly
  | cons request requests inductionHypothesis => exact inductionHypothesis (orderly.join request)

/-! ### Passing a moment -/

/-- Of things in order those before a moment come first. -/
theorem filter_append_filter_of_sorted {alarms : List Alarm}
    (sorted : alarms.Pairwise fun first second => first.deadline ≤ second.deadline) (time : Nat)
    {isDue : Alarm → Bool} (more : ∀ alarm : Alarm, alarm.deadline < time → isDue alarm = true) :
    (alarms.filter fun alarm => decide (alarm.deadline < time)) ++
        (alarms.filter fun alarm => !decide (alarm.deadline < time)).filter isDue =
      alarms.filter isDue := by
  induction sorted with
  | nil => rfl
  | @cons alarm alarms after sorted inductionHypothesis =>
      by_cases early : alarm.deadline < time
      · simp only [List.filter_cons, early, decide_true, Bool.not_true, if_true, more alarm early,
          Bool.false_eq_true, if_false, List.cons_append, inductionHypothesis]
      · -- then all alarms after it are late, too
        have late : ∀ other ∈ alarm :: alarms, ¬ other.deadline < time := by
          intro other member
          rcases List.mem_cons.mp member with rfl | member
          · exact early
          · exact fun before => early (Nat.lt_of_le_of_lt (after other member) before)
        have none : (alarm :: alarms).filter (fun alarm => decide (alarm.deadline < time)) = [] :=
          List.filter_eq_nil_iff.mpr (by simpa using late)
        have all : (alarm :: alarms).filter (fun alarm => !decide (alarm.deadline < time)) =
            alarm :: alarms := List.filter_eq_self.mpr (by simpa using late)
        rw [none, all, List.nil_append]

/-- Alarms that ring at a moment, and then those that are left, ring as all of them at once. -/
theorem ringAll_ringAll (orderly : t.Orderly limits) (time : Nat) (isDue : Alarm → Bool)
    (more : ∀ alarm : Alarm, alarm.deadline < time → isDue alarm = true) :
    (t.ringAll fun alarm => decide (alarm.deadline < time)).ringAll isDue = t.ringAll isDue := by
  have left : (t.alarms.filter fun alarm => !decide (alarm.deadline < time)).filter
      (fun alarm => !isDue alarm) = t.alarms.filter fun alarm => !isDue alarm := by
    rw [List.filter_filter]
    apply List.filter_congr
    intro alarm _
    cases due : isDue alarm with
    | true => rfl
    | false =>
        have late : ¬ alarm.deadline < time := by
          intro early
          rw [more alarm early] at due
          cases due
        simp [late]
  rw [ringAll_eq t fun alarm => decide (alarm.deadline < time), ringAll_eq, ringAll_eq t isDue]
  simp only [foldl_ring_with, left]
  rw [← List.foldl_append, filter_append_filter_of_sorted orderly.sorted time more]

/-- Passing a moment on the way to a later one changes nothing. -/
theorem elapse_elapse (orderly : t.Orderly limits) (earlier : time ≤ later) :
    (t.elapse time).elapse later = t.elapse later := by
  have rung := ringAll_ringAll orderly time (fun alarm => decide (alarm.deadline < later))
    fun alarm early => decide_eq_true (Nat.lt_of_lt_of_le early earlier)
  have passed : max (max t.now time) later = max t.now later := by omega
  simp only [elapse, ringAll_with_now, rung]
  simp only [ringAll_eq, passed]

/-- When all alarms ring in the end, the moments that were passed do not matter. -/
theorem finish_elapse (orderly : t.Orderly limits) (time : Nat) :
    (t.elapse time).finish.dispatches = t.finish.dispatches := by
  have rung := ringAll_ringAll orderly time (fun _ => true) fun _ _ => rfl
  simp only [elapse, finish, ringAll_with_now, rung]

/-! ### Timelines that come to the same -/

/-- From now on a timeline comes to the same as another one, at which one looks only later. -/
structure Meets (limits : Limits) (t u : Timeline) : Prop where
  orderly : t.Orderly limits
  elapse : ∀ time, t.now ≤ time → t.elapse time = u.elapse time
  finish : t.finish.dispatches = u.finish.dispatches

theorem Orderly.meets (orderly : t.Orderly limits) : t.Meets limits t :=
  ⟨orderly, fun _ _ => rfl, rfl⟩

/-- A moment that is passed makes no difference. -/
theorem Meets.pass (meets : t.Meets limits u) (time : Nat) :
    (t.elapse time).Meets limits u where
  orderly := meets.orderly.elapse time
  elapse := by
    intro later reached
    rw [elapse_now] at reached
    rw [elapse_elapse meets.orderly (Nat.le_trans (Nat.le_max_right _ _) reached)]
    apply meets.elapse
    exact Nat.le_trans (Nat.le_max_left _ _) reached
  finish := (finish_elapse meets.orderly time).trans meets.finish

end Orderly

end RpcTransport.Gathering.Timeline
