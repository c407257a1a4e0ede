import RpcTransport.Session.RegistryActs
import RpcTransport.Proofs.Session.Subscribing

/-!
What becomes of each registration of a call. It waits until it is taken out or lost, and is answered
at most once; its caller gets this answer, once, or learns that none will come, whatever happens to
other registrations, of the same id or not.
-/

namespace RpcTransport

/-- A caller finds its answer, or learns whether one may come. -/
theorem CallRegistry.poll_cases (r : CallRegistry) (call : Nat) :
    (∃ answer listens, r.waiters[call]? = some ⟨.ready answer, listens⟩ ∧
      r.poll call = (.ready answer,
        { r with waiters := r.waiters.modify call fun waiter => { waiter with slot := .read } })) ∨
    (∀ answer listens, r.waiters[call]? ≠ some ⟨.ready answer, listens⟩) ∧
      r.poll call = (if r.isHeld call then .empty else .closed, r) := by
  rw [poll]
  split
  · next answer listens found => exact Or.inl ⟨answer, listens, found, rfl⟩
  · next none => exact Or.inr ⟨none, rfl⟩

namespace GuardedRegistry

/-! ### What the past tells -/

/-- What has become of a registration. -/
inductive Fate
  /-- It is in the table, under its id. -/
  | waiting (id : String)
  /-- It was taken out, and is held. -/
  | taken
  | answered (answer : Envelope)
  /-- Nobody can answer it any more. -/
  | lost

namespace Past

/-- The id that a guard forgets when it is dropped. -/
def guarded? (number : Nat) : Past → Option String
  | [] => none
  | (.guard id, .guarded other) :: past =>
    if other = number then some id else guarded? number past
  | (.dropGuard other, _) :: past => if other = number then none else guarded? number past
  | _ :: past => guarded? number past

/-- Whether an act leaves no registration under an id, or another one. -/
def forgets (past : Past) (id : String) : Act → Bool
  | .register other _ | .take other | .cancel other => other == id
  | .dropGuard number => past.guarded? number == some id
  | .clear => true
  | _ => false

/-- The registration that is in the table under an id: the latest one, if since then it was not
taken out and the id not forgotten. -/
def latest? (id : String) : Past → Option Awaited
  | [] => none
  | (act, reply) :: past =>
    match act, reply with
    | .register other subscription, .registered call =>
      if other = id then some ⟨call, subscription⟩ else latest? id past
    | act, _ => if forgets past id act then none else latest? id past

end Past

/-- What becomes of a registration by an act. One that waits is lost when its id is registered again
or forgotten, directly or by a guard, and when the table is cleared. One that was taken out is lost
when it is dropped without an answer. -/
def Fate.after (call : Nat) (past : Past) : Act → Fate → Fate
  | act, .waiting id =>
    match act with
    | .take other => if other = id then .taken else .waiting id
    | act => if past.forgets id act then .lost else .waiting id
  | .reply other answer, .taken => if other = call then .answered answer else .taken
  | .release other, .taken => if other = call then .lost else .taken
  | _, fate => fate

namespace Past

/-- What has become of a registration, if there is one of this number. -/
def fate? (call : Nat) : Past → Option Fate
  | [] => none
  | (act, reply) :: past =>
    match fate? call past, act, reply with
    | some fate, act, _ => some (fate.after call past act)
    | none, .register id _, .registered other => if other = call then some (.waiting id) else none
    | none, _, _ => none

/-- The answers that the caller of a registration has got. -/
def yields (call : Nat) : Past → List Envelope
  | [] => []
  | (.poll other, .polled (.ready answer)) :: past =>
    yields call past ++ if other = call then [answer] else []
  | _ :: past => yields call past

/-- The caller of a registration has not gone away. -/
def Stays (call : Nat) (past : Past) : Prop :=
  ∀ reply, (Act.hangUp call, reply) ∉ past

end Past

/-! ### The registry as it is -/

variable {past later : Past} {desk : GuardedRegistry} {call number : Nat} {id : String}

/-- Where an answer is laid down is as the fate of the registration and what its caller has got
tell. -/
def Fate.Shows (yields : List Envelope) (slot : AnswerSlot) : Fate → Prop
  | .answered answer => slot = .ready answer ∧ yields = [] ∨ slot = .read ∧ yields = [answer]
  | .waiting _ | .taken | .lost => slot = .empty ∧ yields = []

/-- The past tells of a caller as it is, or of none. -/
def Past.TellsOf (past : Past) (call : Nat) : Option Waiter → Prop
  | none => past.fate? call = none ∧ past.yields call = []
  | some waiter => ∃ fate, past.fate? call = some fate ∧
      (past.Stays call → waiter.listens = true ∧ fate.Shows (past.yields call) waiter.slot)

/-- Registry and guards are as the past tells. -/
structure Mirrors (past : Past) (desk : GuardedRegistry) : Prop where
  table : ∀ id : String, desk.registry.table[id]? = past.latest? id
  guards : ∀ number : Nat, desk.guards[number]?.join = past.guarded? number
  waiting : ∀ call id, past.fate? call = some (.waiting id) ↔
    ∃ subscription, desk.registry.table[id]? = some ⟨call, subscription⟩
  taken : ∀ call, desk.registry.taken.any (·.call == call) = true ↔
    past.fate? call = some .taken
  waiters : ∀ call : Nat, past.TellsOf call desk.registry.waiters[call]?

/-! ### One act -/

section Fates

variable {act : Act} {reply : Reply} {fate : Fate} {yields : List Envelope} {slot : AnswerSlot}

theorem Past.fate?_of_some (known : past.fate? call = some fate) :
    Past.fate? call ((act, reply) :: past) = some (fate.after call past act) := by
  rw [Past.fate?.eq_def]
  simp only [known]

/-- Only an act that registers makes a registration. -/
theorem Past.fate?_cons (other : ∀ id subscription, act ≠ .register id subscription) :
    Past.fate? call ((act, reply) :: past) = (past.fate? call).map (Fate.after call past act) := by
  cases known : past.fate? call with
  | some fate => exact Past.fate?_of_some known
  | none =>
      rw [Past.fate?.eq_def]
      simp only [known]
      cases act with
      | register id subscription => exact absurd rfl (other id subscription)
      | _ => rfl

/-- Only an answer to a registration that is held shows where its answer is laid down. -/
theorem Fate.Shows.after (shows : fate.Shows yields slot)
    (unanswered : fate = .taken → ∀ answer, act ≠ .reply call answer) :
    (fate.after call past act).Shows yields slot := by
  cases fate with
  | answered | lost => cases act <;> exact shows
  | waiting id =>
      cases act with
      | take | register | cancel | dropGuard =>
          simp only [Fate.after]
          split <;> exact shows
      | _ => exact shows
  | taken =>
      cases act with
      | release =>
          simp only [Fate.after]
          split <;> exact shows
      | reply place answer =>
          have elsewhere : place ≠ call := by
            rintro rfl
            exact unanswered rfl answer rfl
          simp only [Fate.after, if_neg elsewhere]
          exact shows
      | _ => exact shows

theorem Past.Stays.before (stays : Past.Stays call ((act, reply) :: past)) : past.Stays call :=
  fun other member => stays other (List.mem_cons_of_mem _ member)

/-- What the past tells of a caller stays true with an act that gives it nothing. -/
theorem Past.TellsOf.after {found : Option Waiter} (tells : past.TellsOf call found)
    (noRegister : found = none → ∀ id subscription, act ≠ .register id subscription)
    (unanswered : ∀ answer, act = .reply call answer → past.fate? call = some .taken →
      found.any (·.listens) = false)
    (yields : Past.yields call ((act, reply) :: past) = past.yields call) :
    Past.TellsOf ((act, reply) :: past) call found := by
  cases found with
  | none =>
      obtain ⟨unknown, nothing⟩ := tells
      refine ⟨?_, yields.trans nothing⟩
      rw [Past.fate?_cons (noRegister rfl), unknown, Option.map_none]
  | some waiter =>
      obtain ⟨fate, known, stays⟩ := tells
      refine ⟨_, Past.fate?_of_some known, fun still => ?_⟩
      obtain ⟨listens, shows⟩ := stays still.before
      rw [yields]
      refine ⟨listens, shows.after ?_⟩
      rintro rfl answer same
      cases listens.symm.trans (unanswered answer same known)

/-- Only an act that forgets its id ends the wait of a registration. -/
theorem Fate.after_eq_waiting :
    fate.after call past act = .waiting id ↔ fate = .waiting id ∧ past.forgets id act = false := by
  cases fate with
  | answered | lost => simp [Fate.after]
  | taken =>
      cases act with
      | reply | release =>
          simp only [Fate.after]
          split <;> simp
      | _ => simp [Fate.after]
  | waiting other =>
      cases act with
      | take | register | cancel | dropGuard | clear =>
          simp only [Fate.after, Past.forgets]
          grind
      | _ => simp [Fate.after, Past.forgets]

/-- A registration is taken out when it waits under the id, and is held until it is answered or
dropped. -/
theorem Fate.after_eq_taken : fate.after call past act = .taken ↔
    (∃ id, fate = .waiting id ∧ act = .take id) ∨
    fate = .taken ∧ act ≠ .release call ∧ ∀ answer, act ≠ .reply call answer := by
  cases fate with
  | answered | lost => simp [Fate.after]
  | taken =>
      cases act with
      | reply | release => simp [Fate.after]
      | _ => simp [Fate.after]
  | waiting other =>
      cases act with
      | take id =>
          simp only [Fate.after]
          grind
      | _ =>
          simp only [Fate.after]
          grind

theorem Past.latest?_cons (noRegister : ∀ id subscription, act ≠ .register id subscription) :
    Past.latest? id ((act, reply) :: past) =
      if past.forgets id act then none else past.latest? id := by
  rw [Past.latest?.eq_def]
  cases act with
  | register other subscription => exact absurd rfl (noRegister other subscription)
  | _ => rfl

end Fates

section Steps

variable {act : Act} {told : Reply} {next : GuardedRegistry}

/-- What is to be shown of an act that makes no registration. -/
theorem Mirrors.after (mirrors : Mirrors past desk)
    (noRegister : ∀ id subscription, act ≠ .register id subscription)
    (table : ∀ id : String, next.registry.table[id]? =
      if past.forgets id act then none else desk.registry.table[id]?)
    (guards : ∀ number : Nat,
      next.guards[number]?.join = Past.guarded? number ((act, told) :: past))
    (taken : ∀ call, next.registry.taken.any (·.call == call) = true ↔
      Past.fate? call ((act, told) :: past) = some .taken)
    (waiters : ∀ call : Nat,
      Past.TellsOf ((act, told) :: past) call next.registry.waiters[call]?) :
    Mirrors ((act, told) :: past) next where
  table id := by rw [table, mirrors.table, Past.latest?_cons noRegister]
  guards := guards
  waiting call id := by
    rw [Past.fate?_cons noRegister, Option.map_eq_some_iff, table]
    simp only [Fate.after_eq_waiting]
    cases past.forgets id act with
    | true => simp
    | false =>
        rw [if_neg (by decide), ← mirrors.waiting]
        simp
  taken := taken
  waiters := waiters

/-- Only who takes a registration out, answers it or drops it changes what is held. -/
theorem Mirrors.taken_after (mirrors : Mirrors past desk)
    (noRegister : ∀ id subscription, act ≠ .register id subscription)
    (noTake : ∀ id, act ≠ .take id) (noRelease : act ≠ .release call)
    (noReply : ∀ answer, act ≠ .reply call answer) :
    desk.registry.taken.any (·.call == call) = true ↔
      Past.fate? call ((act, told) :: past) = some .taken := by
  rw [mirrors.taken, Past.fate?_cons noRegister, Option.map_eq_some_iff]
  simp only [Fate.after_eq_taken]
  simp [noTake, noRelease, noReply]

theorem Mirrors.cancel (mirrors : Mirrors past desk) (id : String) :
    Mirrors ((.cancel id, told) :: past) (desk.act (.cancel id)).2 := by
  refine mirrors.after nofun (fun other => ?_) mirrors.guards
    (fun call => mirrors.taken_after nofun nofun nofun nofun)
    (fun call => (mirrors.waiters call).after (fun _ => nofun) nofun rfl)
  simp [Past.forgets, GuardedRegistry.act, CallRegistry.cancel, CallTable.getElem?_erase]

theorem Mirrors.clear (mirrors : Mirrors past desk) :
    Mirrors ((.clear, told) :: past) (desk.act .clear).2 :=
  mirrors.after nofun (fun _ => Std.ExtTreeMap.getElem?_empty) mirrors.guards
    (fun _ => mirrors.taken_after nofun nofun nofun nofun)
    (fun call => (mirrors.waiters call).after (fun _ => nofun) nofun rfl)

theorem Mirrors.guard (mirrors : Mirrors past desk) (id : String) :
    Mirrors ((.guard id, .guarded desk.guards.length) :: past) (desk.guard id).2 := by
  refine mirrors.after nofun (fun other => rfl) (fun number => ?_)
    (fun call => mirrors.taken_after nofun nofun nofun nofun)
    (fun call => (mirrors.waiters call).after (fun _ => nofun) nofun rfl)
  rw [Past.guarded?, ← mirrors.guards]
  split
  · next last => simp [GuardedRegistry.guard, ← last]
  · next earlier =>
      rcases Nat.lt_or_gt_of_ne earlier with beyond | before
      · have none : desk.guards.length ≤ number := Nat.le_of_lt beyond
        simp [GuardedRegistry.guard, List.getElem?_append_right none, List.getElem?_eq_none none,
          Nat.ne_of_gt (Nat.sub_pos_of_lt beyond)]
      · simp only [GuardedRegistry.guard]
        rw [List.getElem?_append_left before]

theorem Mirrors.dropGuard (mirrors : Mirrors past desk) (number : Nat) :
    Mirrors ((.dropGuard number, told) :: past) (desk.dropGuard number) := by
  have tells : ∀ call : Nat,
      Past.TellsOf ((.dropGuard number, told) :: past) call desk.registry.waiters[call]? :=
    fun call => (mirrors.waiters call).after (fun _ => nofun) nofun rfl
  cases live : past.guarded? number with
  | none =>
      have same : desk.dropGuard number = desk := by
        rw [GuardedRegistry.dropGuard, mirrors.guards, live]
      rw [same]
      refine mirrors.after nofun (fun other => ?_) (fun other => ?_)
        (fun call => mirrors.taken_after nofun nofun nofun nofun) tells
      · simp [Past.forgets, live]
      · rw [Past.guarded?, mirrors.guards]
        split
        · next here => rw [← here, live]
        · rfl
  | some id =>
      have cancels : desk.dropGuard number =
          ⟨desk.registry.cancel id, desk.guards.set number none⟩ := by
        rw [GuardedRegistry.dropGuard, mirrors.guards, live]
      rw [cancels]
      refine mirrors.after nofun (fun other => ?_) (fun other => ?_)
        (fun call => mirrors.taken_after nofun nofun nofun nofun) tells
      · simp [Past.forgets, live, CallRegistry.cancel, CallTable.getElem?_erase]
      · rw [Past.guarded?, ← mirrors.guards, List.getElem?_set]
        split
        · split <;> rfl
        · rfl

theorem Mirrors.take (mirrors : Mirrors past desk) (id : String) :
    Mirrors ((.take id, told) :: past) (desk.act (.take id)).2 := by
  have tells : ∀ call : Nat,
      Past.TellsOf ((.take id, told) :: past) call desk.registry.waiters[call]? :=
    fun call => (mirrors.waiters call).after (fun _ => nofun) nofun rfl
  have fate : ∀ call, Past.fate? call ((.take id, told) :: past) = some .taken ↔
      (∃ subscription, desk.registry.table[id]? = some ⟨call, subscription⟩) ∨
        desk.registry.taken.any (·.call == call) = true := by
    intro call
    have noRegister : ∀ other subscription, Act.take id ≠ .register other subscription := nofun
    rw [Past.fate?_cons noRegister, Option.map_eq_some_iff, mirrors.taken, ← mirrors.waiting]
    simp only [Fate.after_eq_taken]
    constructor
    · rintro ⟨fate, known, ⟨other, rfl, same⟩ | ⟨rfl, _⟩⟩
      · exact Or.inl (Act.take.inj same ▸ known)
      · exact Or.inr known
    · rintro (known | known)
      · exact ⟨_, known, Or.inl ⟨id, rfl, rfl⟩⟩
      · exact ⟨_, known, Or.inr ⟨rfl, nofun, nofun⟩⟩
  cases found : desk.registry.table[id]? with
  | none =>
      have same : (desk.act (.take id)).2 = desk := by
        simp [GuardedRegistry.act, CallRegistry.take, found]
      rw [same]
      refine mirrors.after nofun (fun other => ?_) mirrors.guards (fun call => ?_) tells
      · simp only [Past.forgets, beq_iff_eq]
        split
        · next here => rw [← here, found]
        · rfl
      · simp [fate, found]
  | some awaited =>
      have takes : (desk.act (.take id)).2 = { desk with registry := { desk.registry with
          table := desk.registry.table.erase id, taken := awaited :: desk.registry.taken } } := by
        simp [GuardedRegistry.act, CallRegistry.take, found]
      rw [takes]
      refine mirrors.after nofun (fun other => ?_) mirrors.guards (fun call => ?_) tells
      · simp [Past.forgets, CallTable.getElem?_erase]
      · obtain ⟨number, subscription⟩ := awaited
        simp [fate, found]

/-- Whoever lets go of a registration that was taken out no longer holds it. -/
theorem Mirrors.taken_release (mirrors : Mirrors past desk) {place : Nat}
    (lets : act = .release place ∨ ∃ answer, act = .reply place answer) :
    (desk.registry.release place).taken.any (·.call == call) = true ↔
      Past.fate? call ((act, told) :: past) = some .taken := by
  have noRegister : ∀ id subscription, act ≠ .register id subscription := by
    rintro id subscription rfl
    simp at lets
  by_cases here : call = place
  · subst here
    constructor
    · simp [CallRegistry.release]
    · rw [Past.fate?_cons noRegister, Option.map_eq_some_iff]
      rintro ⟨fate, _, isTaken⟩
      obtain ⟨_, _, rfl⟩ | ⟨_, noRelease, noReply⟩ := Fate.after_eq_taken.mp isTaken
      · simp at lets
      · obtain released | ⟨answer, replied⟩ := lets
        · exact absurd released noRelease
        · exact absurd replied (noReply answer)
  · have elsewhere : (desk.registry.release place).taken.any (·.call == call) =
        desk.registry.taken.any (·.call == call) := by
      rw [CallRegistry.release, List.any_filter]
      congr 1
      funext awaited
      by_cases its : awaited.call = call
      · simp [its, here]
      · simp [its]
    rw [elsewhere]
    refine mirrors.taken_after noRegister ?_ ?_ ?_
    · rintro id rfl
      simp at lets
    · rintro rfl
      simp [here] at lets
    · rintro answer rfl
      simp [here] at lets

theorem Mirrors.release (mirrors : Mirrors past desk) (place : Nat) :
    Mirrors ((.release place, told) :: past) (desk.act (.release place)).2 :=
  mirrors.after nofun (fun _ => rfl) mirrors.guards
    (fun _ => mirrors.taken_release (Or.inl rfl))
    (fun call => (mirrors.waiters call).after (fun _ => nofun) nofun rfl)

theorem Mirrors.hangUp (mirrors : Mirrors past desk) (place : Nat) :
    Mirrors ((.hangUp place, told) :: past) (desk.act (.hangUp place)).2 := by
  have tells : ∀ call : Nat,
      Past.TellsOf ((.hangUp place, told) :: past) call desk.registry.waiters[call]? :=
    fun call => (mirrors.waiters call).after (fun _ => nofun) nofun rfl
  refine mirrors.after nofun (fun _ => rfl) mirrors.guards
    (fun _ => mirrors.taken_after nofun nofun nofun nofun)
    (forall_getElem?_modify ?_ fun other _ => tells other)
  have here := tells place
  cases found : desk.registry.waiters[place]? with
  | none => rwa [found] at here
  | some waiter =>
      rw [found] at here
      obtain ⟨fate, known, _⟩ := here
      exact ⟨fate, known, fun stays => absurd (List.mem_cons_self) (stays told)⟩

/-- An answer reaches its caller if that stays, and no other one. -/
theorem Mirrors.replied (mirrors : Mirrors past desk) (place : Nat) (answer : Envelope)
    (call : Nat) : Past.TellsOf ((.reply place answer, told) :: past) call
      (desk.registry.reply place answer).waiters[call]? := by
  rw [CallRegistry.reply]
  split
  · next reaches =>
      rw [Bool.and_eq_true, mirrors.taken] at reaches
      obtain ⟨held, _⟩ := reaches
      refine forall_getElem?_modify ?_ (fun other different => ?_) call
      · have here := mirrors.waiters place
        cases found : desk.registry.waiters[place]? with
        | none =>
            rw [found] at here
            cases here.1.symm.trans held
        | some waiter =>
            rw [found] at here
            obtain ⟨fate, known, stays⟩ := here
            cases known.symm.trans held
            refine ⟨_, Past.fate?_of_some held, fun still => ?_⟩
            obtain ⟨listens, _, none⟩ := stays still.before
            rw [Fate.after, if_pos rfl]
            exact ⟨listens, Or.inl ⟨rfl, none⟩⟩
      · refine (mirrors.waiters other).after (fun _ => nofun) ?_ rfl
        rintro otherAnswer same
        exact absurd (Act.reply.inj same).1.symm different
  · next misses =>
      refine (mirrors.waiters call).after (fun _ => nofun) ?_ rfl
      rintro otherAnswer same held
      rw [(Act.reply.inj same).1, (mirrors.taken call).mpr held, Bool.true_and] at misses
      exact Bool.eq_false_iff.mpr misses

theorem Mirrors.reply (mirrors : Mirrors past desk) (place : Nat) (answer : Envelope) :
    Mirrors ((.reply place answer, told) :: past) (desk.act (.reply place answer)).2 := by
  have held : (desk.registry.reply place answer).taken = (desk.registry.release place).taken := by
    rw [CallRegistry.reply]
    split <;> rfl
  have table : (desk.registry.reply place answer).table = desk.registry.table := by
    rw [CallRegistry.reply]
    split <;> rfl
  refine mirrors.after nofun (fun id => ?_) mirrors.guards (fun call => ?_)
    (mirrors.replied place answer)
  · exact congrArg (·[id]?) table
  · exact (Bool.eq_iff_iff.mp (congrArg (·.any (·.call == call)) held)).trans
      (mirrors.taken_release (Or.inr ⟨answer, rfl⟩))

/-- A caller that finds its answer has got it. -/
theorem Mirrors.poll (mirrors : Mirrors past desk) (place : Nat) :
    Mirrors ((.poll place, .polled (desk.registry.poll place).1) :: past)
      (desk.act (.poll place)).2 := by
  simp only [GuardedRegistry.act]
  obtain ⟨answer, listened, found, polled⟩ | ⟨_, polled⟩ := desk.registry.poll_cases place
  · rw [polled]
    refine mirrors.after nofun (fun _ => rfl) mirrors.guards
      (fun _ => mirrors.taken_after nofun nofun nofun nofun)
      (forall_getElem?_modify ?_ fun other different => ?_)
    · have here := mirrors.waiters place
      rw [found] at here ⊢
      obtain ⟨fate, known, stays⟩ := here
      refine ⟨_, Past.fate?_of_some known, fun still => ?_⟩
      obtain ⟨listens, shows⟩ := stays still.before
      refine ⟨listens, ?_⟩
      cases fate with
      | waiting | taken | lost => cases shows.1
      | answered answer =>
          obtain ⟨slot, none⟩ | ⟨read, _⟩ := shows
          · cases slot
            exact Or.inr ⟨rfl, by simp [Past.yields, none]⟩
          · cases read
    · refine (mirrors.waiters other).after (fun _ => nofun) nofun ?_
      simp [Past.yields, different.symm]
  · rw [polled]
    refine mirrors.after nofun (fun _ => rfl) mirrors.guards
      (fun _ => mirrors.taken_after nofun nofun nofun nofun)
      (fun call => (mirrors.waiters call).after (fun _ => nofun) nofun ?_)
    split <;> rfl

/-- A registration begins to wait under its id, in place of an earlier one. -/
theorem Past.fate?_register {place : Nat} {subscription : Option Subscription}
    (unknown : past.fate? place = none) :
    Past.fate? call ((.register id subscription, .registered place) :: past) =
      if call = place then some (.waiting id)
      else (past.fate? call).map (Fate.after call past (.register id subscription)) := by
  cases known : past.fate? call with
  | some fate =>
      rw [Past.fate?_of_some known, if_neg, Option.map_some]
      rintro rfl
      cases unknown.symm.trans known
  | none =>
      rw [Past.fate?.eq_def]
      simp only [known, Option.map_none, eq_comm]

theorem Mirrors.register (mirrors : Mirrors past desk) (id : String)
    (subscription : Option Subscription) :
    Mirrors ((.register id subscription, .registered desk.registry.waiters.length) :: past)
      (desk.act (.register id subscription)).2 := by
  have fresh := mirrors.waiters desk.registry.waiters.length
  rw [List.getElem?_eq_none (Nat.le_refl _)] at fresh
  obtain ⟨unknown, nothing⟩ := fresh
  have table : ∀ other : String,
      (desk.act (.register id subscription)).2.registry.table[other]? =
        if id = other then some ⟨desk.registry.waiters.length, subscription⟩
        else desk.registry.table[other]? :=
    fun other => CallTable.getElem?_insert _ _ _ _
  constructor
  case table =>
    intro other
    rw [table, mirrors.table]
    rfl
  case guards => exact mirrors.guards
  case waiting =>
    intro call other
    rw [Past.fate?_register unknown, table]
    split
    · next isNew =>
        have absent : ∀ subscription, desk.registry.table[other]? ≠ some ⟨call, subscription⟩ := by
          intro subscription found
          cases (isNew ▸ unknown).symm.trans ((mirrors.waiting _ _).mpr ⟨_, found⟩)
        by_cases same : id = other
        · simp [same, isNew]
        · simp [same, absent]
    · next isOld =>
        rw [Option.map_eq_some_iff]
        simp only [Fate.after_eq_waiting, Past.forgets]
        by_cases same : id = other
        · simp [same, Ne.symm isOld]
        · simp [same, ← mirrors.waiting]
  case taken =>
    intro call
    rw [Past.fate?_register unknown]
    refine (mirrors.taken call).trans ?_
    split
    · next isNew => simp [isNew, unknown]
    · next isOld => simp [Fate.after_eq_taken]
  case waiters =>
    intro call
    show Past.TellsOf _ call (desk.registry.waiters ++ [⟨.empty, true⟩])[call]?
    rcases Nat.lt_trichotomy call desk.registry.waiters.length with earlier | rfl | later
    · rw [List.getElem?_append_left earlier]
      refine (mirrors.waiters call).after (fun none => ?_) nofun rfl
      exact absurd (List.getElem?_eq_none_iff.mp none) (Nat.not_le_of_lt earlier)
    · rw [List.getElem?_concat_length]
      refine ⟨.waiting id, ?_, fun _ => ⟨rfl, rfl, nothing⟩⟩
      rw [Past.fate?_register unknown, if_pos rfl]
    · have tells := mirrors.waiters call
      rw [List.getElem?_eq_none (Nat.le_of_lt later)] at tells
      rw [List.getElem?_eq_none (by rw [List.length_append]; exact later)]
      refine ⟨?_, tells.2⟩
      rw [Past.fate?_register unknown, if_neg (Nat.ne_of_gt later), tells.1, Option.map_none]

end Steps

/-- Whatever is done, registry and guards are as the past tells. -/
theorem Mirrors.act (mirrors : Mirrors past desk) (act : Act) :
    Mirrors ((act, (desk.act act).1) :: past) (desk.act act).2 := by
  cases act with
  | register id subscription => exact mirrors.register id subscription
  | take id => exact mirrors.take id
  | reply call answer => exact mirrors.reply call answer
  | release call => exact mirrors.release call
  | cancel id => exact mirrors.cancel id
  | guard id => exact mirrors.guard id
  | dropGuard number => exact mirrors.dropGuard number
  | clear => exact mirrors.clear
  | poll call => exact mirrors.poll call
  | hangUp call => exact mirrors.hangUp call

theorem mirrors_play (acts : List Act) : Mirrors (play acts).1 (play acts).2 := by
  induction acts using List.reverseRecOn with
  | nil =>
      refine ⟨fun id => Std.ExtTreeMap.getElem?_empty, fun _ => rfl, fun call id => ?_,
        fun call => ?_, fun call => ⟨rfl, rfl⟩⟩
      · show none = some (Fate.waiting id) ↔ ∃ subscription, (∅ : CallTable)[id]? = _
        simp
      · show ([] : List Awaited).any _ = true ↔ none = some Fate.taken
        simp
  | append_singleton acts act inductionHypothesis =>
      rw [play, List.foldl_concat]
      exact inductionHypothesis.act act

/-! ### What comes of the next act -/

/-- What a caller sees who looks for its answer. -/
def Fate.seen (yields : List Envelope) : Fate → Polled
  | .waiting _ | .taken => .empty
  | .answered answer => if yields.isEmpty then .ready answer else .closed
  | .lost => .closed

/-- What comes of every next act follows from the past, and each registration has its own fate. -/
structure FollowsPast (past : Past) (desk : GuardedRegistry) : Prop where
  /-- A registration has a number that no earlier one has. -/
  fresh : ∀ id subscription call,
    (desk.act (.register id subscription)).1 = .registered call → past.fate? call = none
  /-- A registration waits under an id just if it is the latest one of this id that is in the table.
  -/
  waits : ∀ call id, past.fate? call = some (.waiting id) ↔
    ∃ subscription, past.latest? id = some ⟨call, subscription⟩
  /-- Whoever takes a call out gets the latest registration of the id. -/
  took : ∀ id, (desk.act (.take id)).1 = .took (past.latest? id)
  /-- Then it is no longer in the table, and all others are. -/
  removes : ∀ id other : String, (desk.act (.take id)).2.registry.table[other]? =
    if id = other then none else past.latest? other
  /-- An answer is delivered just if the registration was taken out and is held. -/
  delivers : ∀ call answer, past.Stays call →
    ((desk.act (.reply call answer)).1 = .replied true ↔ past.fate? call = some .taken)
  /-- A caller gets nothing but the answer to its own registration, and that at most once. -/
  once : ∀ call fate, past.fate? call = some fate → past.Stays call →
    past.yields call = [] ∨ ∃ answer, fate = .answered answer ∧ past.yields call = [answer]
  ready : ∀ call fate answer, past.fate? call = some fate → past.Stays call →
    ((desk.act (.poll call)).1 = .polled (.ready answer) ↔
      fate = .answered answer ∧ past.yields call = [])
  /-- A caller that has got nothing learns that nothing will come just if its registration is lost.
  -/
  closed : ∀ call fate, past.fate? call = some fate → past.Stays call →
    ((desk.act (.poll call)).1 = .polled .closed ∧ past.yields call = [] ↔ fate = .lost)
  empty : ∀ call fate, past.fate? call = some fate → past.Stays call →
    ((desk.act (.poll call)).1 = .polled .empty ↔ (∃ id, fate = .waiting id) ∨ fate = .taken)
  /-- What counts are the ids under which registrations wait. -/
  count : desk.registry.count = {id | ∃ call, past.fate? call = some (.waiting id)}.ncard
  cleared : (desk.act .clear).1 = .cleared desk.registry.count
  empties : (desk.act .clear).2.registry.count = 0

theorem Mirrors.caller (mirrors : Mirrors past desk) {fate : Fate}
    (known : past.fate? call = some fate) (stays : past.Stays call) :
    ∃ waiter, desk.registry.waiters[call]? = some waiter ∧ waiter.listens = true ∧
      fate.Shows (past.yields call) waiter.slot := by
  have tells := mirrors.waiters call
  cases found : desk.registry.waiters[call]? with
  | none =>
      rw [found] at tells
      cases tells.1.symm.trans known
  | some waiter =>
      rw [found] at tells
      obtain ⟨other, same, shows⟩ := tells
      cases same.symm.trans known
      exact ⟨waiter, rfl, shows stays⟩

theorem Mirrors.isHeld (mirrors : Mirrors past desk) : desk.registry.isHeld call = true ↔
    (∃ id, past.fate? call = some (.waiting id)) ∨ past.fate? call = some .taken := by
  rw [CallRegistry.isHeld, Bool.or_eq_true, mirrors.taken, Session.values_any]
  simp only [mirrors.waiting, beq_iff_eq]
  constructor
  · rintro (⟨id, ⟨_, subscription⟩, found, rfl⟩ | held)
    · exact Or.inl ⟨id, subscription, found⟩
    · exact Or.inr held
  · rintro (⟨id, subscription, found⟩ | held)
    · exact Or.inl ⟨id, ⟨call, subscription⟩, found, rfl⟩
    · exact Or.inr held

theorem Mirrors.polled (mirrors : Mirrors past desk) {fate : Fate}
    (known : past.fate? call = some fate) (stays : past.Stays call) :
    (desk.act (.poll call)).1 = .polled (fate.seen (past.yields call)) := by
  obtain ⟨⟨slot, listens⟩, found, _, shows⟩ := mirrors.caller known stays
  have held := @Mirrors.isHeld past desk call mirrors
  rw [known] at held
  simp only [GuardedRegistry.act, Reply.polled.injEq]
  obtain ⟨answer, _, ready, polled⟩ | ⟨notReady, polled⟩ := desk.registry.poll_cases call
  · rw [polled]
    cases found.symm.trans ready
    cases fate with
    | waiting | taken | lost => cases shows.1
    | answered other =>
        obtain ⟨slot, none⟩ | ⟨read, _⟩ := shows
        · cases slot
          rw [Fate.seen, none]
          rfl
        · cases read
  · rw [polled]
    cases fate with
    | waiting id => simp [Fate.seen, held]
    | taken => simp [Fate.seen, held]
    | lost => simp [Fate.seen, held]
    | answered answer =>
        obtain ⟨rfl, _⟩ | ⟨_, got⟩ := shows
        · exact absurd found (notReady answer listens)
        · simp [Fate.seen, held, got]

/-- Whatever has been done with a registry and its guards, what comes of the next act follows from
the past. -/
theorem resolves_once (acts : List Act) : FollowsPast (play acts).1 (play acts).2 := by
  have mirrors := mirrors_play acts
  generalize (play acts).1 = past, (play acts).2 = desk at mirrors ⊢
  constructor
  case fresh =>
    rintro id subscription call registered
    obtain rfl : desk.registry.waiters.length = call := Reply.registered.inj registered
    have tells := mirrors.waiters desk.registry.waiters.length
    rw [List.getElem?_eq_none (Nat.le_refl _)] at tells
    exact tells.1
  case waits =>
    intro call id
    rw [mirrors.waiting, mirrors.table]
  case took =>
    intro id
    rw [← mirrors.table, GuardedRegistry.act, CallRegistry.take]
    cases desk.registry.table[id]? <;> rfl
  case removes =>
    intro id other
    have taken : Mirrors ((.take id, .done) :: past) (desk.act (.take id)).2 := mirrors.take id
    rw [taken.table]
    simp only [Past.latest?, Past.forgets, beq_iff_eq]
  case delivers =>
    intro call answer stays
    have reaches : (desk.act (.reply call answer)).1 = .replied true ↔
        past.fate? call = some .taken ∧ desk.registry.listens call = true := by
      rw [← mirrors.taken, ← Bool.and_eq_true]
      exact ⟨Reply.replied.inj, congrArg Reply.replied⟩
    rw [reaches, and_iff_left_iff_imp]
    intro held
    obtain ⟨waiter, found, listens, _⟩ := mirrors.caller held stays
    rw [CallRegistry.listens, found, Option.any_some, listens]
  case once =>
    intro call fate known stays
    obtain ⟨_, _, _, shows⟩ := mirrors.caller known stays
    cases fate with
    | waiting | taken | lost => exact Or.inl shows.2
    | answered answer =>
        obtain ⟨_, none⟩ | ⟨_, got⟩ := shows
        · exact Or.inl none
        · exact Or.inr ⟨answer, rfl, got⟩
  case ready =>
    intro call fate answer known stays
    rw [mirrors.polled known stays, Reply.polled.injEq]
    cases fate with
    | waiting | taken | lost => simp [Fate.seen]
    | answered other =>
        rw [Fate.seen, ← List.isEmpty_iff]
        split
        · next none => simp [none]
        · next got => simp [got]
  case closed =>
    intro call fate known stays
    rw [mirrors.polled known stays, Reply.polled.injEq]
    obtain ⟨_, _, _, shows⟩ := mirrors.caller known stays
    cases fate with
    | waiting | taken => simp [Fate.seen]
    | lost => simp [Fate.seen, shows.2]
    | answered answer => simp [Fate.seen]
  case empty =>
    intro call fate known stays
    rw [mirrors.polled known stays, Reply.polled.injEq]
    cases fate with
    | waiting | taken | lost => simp [Fate.seen]
    | answered answer =>
        rw [Fate.seen]
        split <;> simp
  case count =>
    rw [CallRegistry.count, Session.size_eq_ncard]
    congr 1
    ext id
    simp only [mirrors.waiting, Set.mem_ofPred_eq, Option.isSome_iff_exists]
    constructor
    · rintro ⟨⟨call, subscription⟩, found⟩
      exact ⟨call, subscription, found⟩
    · rintro ⟨call, subscription, found⟩
      exact ⟨⟨call, subscription⟩, found⟩
  case cleared => rfl
  case empties => exact Std.ExtTreeMap.size_empty

end GuardedRegistry

end RpcTransport
