import RunBoard.Proofs.Load.Polling

/-!
# What a mount asks for

A mount that has had one task asks for one identity. It has asked once for every outcome that the
task has had, and once more while the task waits for an answer, so a task that has ended asks for
nothing more, and one that goes on asks again when it has been woken.
-/

namespace RunBoard.Load

variable {κ α : Type}

/-- The identity that an effect asks for. -/
def MountEffect.asked? : MountEffect κ α → Option κ
  | .asked _ identity _ => some identity
  | _ => none

namespace Mount

/-- Everything that a mount has asked for, in order. -/
def asked (effects : List (MountEffect κ α)) : List κ := effects.filterMap MountEffect.asked?

/-- The sleep of a task is over, and it has its turn. -/
def wakened (index : Nat) : List (MountEvent κ α) := [.wake index, .fetch index]

theorem areTasks_wakened (index : Nat) :
    ∀ event ∈ (wakened index : List (MountEvent κ α)), event.task?.isSome = true := by
  simp [wakened, MountEvent.task?]

theorem answered_wakened (index : Nat) :
    .settle index none ∉ (wakened index : List (MountEvent κ α)) := by
  simp [wakened]

/-- Where only one task asks, and for one identity, all is said by what that task has been told. -/
theorem asked_eq_replicate {effects : List (MountEffect κ α)} {index : Nat} {identity : κ}
    (only : ∀ task other previous, .asked task other previous ∈ effects →
      task = index ∧ other = identity) :
    asked effects =
      List.replicate (effects.filterMap (MountEffect.told? index)).length identity := by
  induction effects with
  | nil => rfl
  | cons effect rest ih =>
    have later := ih fun task other previous member =>
      only task other previous (List.mem_cons_of_mem _ member)
    cases effect with
    | published state => exact later
    | slept task period => exact later
    | asked task other previous =>
      obtain ⟨rfl, rfl⟩ := only task other previous List.mem_cons_self
      simpa [asked, MountEffect.asked?, MountEffect.told?, List.replicate_succ] using later

variable [DecidableEq κ]

theorem taken_append (mount : Mount κ α) (index : Nat) (first second : List (MountEvent κ α)) :
    mount.taken index (first ++ second) =
      mount.taken index first ++ (mount.run first).1.taken index second := by
  induction first generalizing mount with
  | nil => rfl
  | cons event rest ih =>
    rw [List.cons_append, taken, taken, ih, List.append_assoc]
    rfl

namespace Drives

variable {mount : Mount κ α} {identity : κ} {phase : Phase α}

/-- While there is one task, it is the one that asks. -/
theorem only_step (drives : Drives mount 0 identity phase) (event : MountEvent κ α) :
    ∀ task other previous, .asked task other previous ∈ (mount.step event).2 →
      task = 0 ∧ other = identity := by
  intro task other previous member
  have turn := turn_step mount event
  generalize (mount.step event).1 = next at turn
  generalize (mount.step event).2 = effects at turn member
  have single : mount.tasks.length = 1 := (drives.sound.live drives.found rfl).1.symm
  cases turn with
  | rest | unmount | drop | finish => cases member
  | restart | wake => simp at member
  | @fetch index asker ticket given found starting =>
    simp only [List.mem_singleton, MountEffect.asked.injEq] at member
    obtain ⟨rfl, rfl, -⟩ := member
    have first : task = 0 := by
      have inside := (List.getElem?_eq_some_iff.1 found).1
      omega
    subst first
    obtain rfl := Option.some.inj (found.symm.trans drives.found)
    exact ⟨rfl, rfl⟩
  | take result found fetching live =>
    rcases List.mem_cons.1 member with impossible | inside
    · cases impossible
    · obtain ⟨period, slept⟩ := followUp_effects inside
      cases slept

theorem only_run (drives : Drives mount 0 identity phase) (events : List (MountEvent κ α))
    (areTasks : ∀ event ∈ events, event.task?.isSome = true)
    (answered : .settle 0 none ∉ events) :
    ∀ task other previous, .asked task other previous ∈ (mount.run events).2 →
      task = 0 ∧ other = identity := by
  induction events generalizing mount phase with
  | nil => nofun
  | cons event rest ih =>
    intro task other previous member
    obtain ⟨next, -, reached⟩ := drives.step (areTasks event List.mem_cons_self)
      fun same => answered (same ▸ List.mem_cons_self)
    rcases List.mem_append.1 member with now | later
    · exact drives.only_step event task other previous now
    · exact ih reached (fun event inside => areTasks event (List.mem_cons_of_mem _ inside))
        (fun inside => answered (List.mem_cons_of_mem _ inside)) task other previous later

/-- A task that has ended is told nothing any more. -/
theorem told_of_ended {index : Nat} (drives : Drives mount index identity .ended)
    (events : List (MountEvent κ α)) (areTasks : ∀ event ∈ events, event.task?.isSome = true)
    (answered : .settle index none ∉ events) :
    (mount.run events).2.filterMap (MountEffect.told? index) = [] := by
  induction events generalizing mount with
  | nil => rfl
  | cons event rest ih =>
    obtain ⟨next, move, reached⟩ := drives.step (areTasks event List.mem_cons_self)
      fun same => answered (same ▸ List.mem_cons_self)
    generalize told : (mount.step event).2.filterMap (MountEffect.told? index) = now at move
    generalize (mount.step event).2.filterMap MountEffect.shown? = shown at move
    generalize mount.taken? index event = taken at move
    cases move with
    | rest =>
      simp only [run, List.filterMap_append, told, List.nil_append]
      exact ih reached (fun event inside => areTasks event (List.mem_cons_of_mem _ inside))
        fun inside => answered (List.mem_cons_of_mem _ inside)

/-- Once it has been woken and has had its turn, a task that goes on waits for an answer. -/
theorem fetching_wakened {index : Nat} (drives : Drives mount index identity phase)
    (running : phase ≠ .ended) :
    ∃ ticket previous, Drives (mount.run (wakened index)).1 index identity
      (.fetching ticket previous) := by
  cases phase with
  | starting ticket previous =>
    have awake : mount.step (.wake index) = (mount, []) := by simp only [Mount.step, drives.found]
    refine ⟨ticket, previous, ?_⟩
    simp only [wakened, run, awake]
    exact drives.ask.2
  | sleeping previous => exact ⟨_, previous, drives.wake.2.ask.2⟩
  | fetching ticket previous =>
    have awake : mount.step (.wake index) = (mount, []) := by simp only [Mount.step, drives.found]
    have asked : mount.step (.fetch index) = (mount, []) := by simp only [Mount.step, drives.found]
    refine ⟨ticket, previous, ?_⟩
    simp only [wakened, run, awake, asked]
    exact drives
  | ended => exact absurd rfl running

end Drives

end Mount

end RunBoard.Load
