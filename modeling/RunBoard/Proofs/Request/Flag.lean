import RunBoard.Command.Scene
import RunBoard.Request.Pending

/-!
# Awaiting under a flag

A chain in a scene, awaited under a flag that may be set at any time. Looking at the flag
changes nothing that matters, so all that awaiting adds to a chain is some looks: the outcome
is seen, and a further link starts, when none of them finds the flag set.
-/

namespace RunBoard

open Command (Scene)

/-- Whether a scene differs from another one in no file and in nothing that was sent. -/
structure Command.Scene.Alike (first second : Scene) : Prop where
  files : first.files = second.files
  sent : first.sent = second.sent

theorem Command.Scene.Alike.trans {first second third : Scene} (one : first.Alike second)
    (two : second.Alike third) : first.Alike third :=
  ⟨one.files.trans two.files, one.sent.trans two.sent⟩

/-- A cancellation flag that may be set at any time. Looking at it changes no file and sends
nothing. -/
structure Flag where
  look : StateM Scene Bool
  quiet : ∀ scene, (look scene).2.Alike scene

namespace Flag

/-- A flag that nobody sets. -/
def unset : Flag := ⟨fun scene => (false, scene), fun _ => ⟨rfl, rfl⟩⟩

/-- Looks at a flag for some times, or until it is found set. -/
def watch (flag : Flag) : Nat → Scene → Bool × Scene
  | 0, scene => (false, scene)
  | looks + 1, scene =>
      let seen := flag.watch looks scene
      if seen.1 then seen else flag.look seen.2

theorem alike_watch (flag : Flag) (looks : Nat) (scene : Scene) :
    (flag.watch looks scene).2.Alike scene := by
  induction looks with
  | zero => exact ⟨rfl, rfl⟩
  | succ looks ih =>
      simp only [watch]
      split
      · exact ih
      · exact (flag.quiet _).trans ih

theorem watch_unset (looks : Nat) (scene : Scene) : unset.watch looks scene = (false, scene) := by
  induction looks with
  | zero => rfl
  | succ looks ih =>
      simp only [watch, ih]
      rfl

end Flag

namespace Pending

variable {ε α β : Type} {flag : Flag} {looks : Nat} {scene : Scene}

theorem isCancelled_map {m : Type → Type} [Monad m] (f : α → β) (source : Pending m ε α) :
    (source.map f).isCancelled = source.isCancelled := rfl

/-- A chain that has not been cancelled is awaited under the flag from outside. -/
theorem awaitUnless_of_free {m : Type → Type} [Monad m] {pending : Pending m ε α}
    (free : pending.isCancelled = false) (flag : m Bool) :
    pending.awaitUnless flag = awaitFrom flag pending := by
  rw [awaitUnless, free]
  rfl

/-- Whether awaiting has come to an outcome after some looks at the flag, or to none because one
of them has found it set. -/
def Settles (flag : Flag) (looks : Nat) (came : Option (Except ε α) × Scene)
    (outcome : Except ε α) (scene : Scene) : Prop :=
  came = (if (flag.watch looks scene).1 then none else some outcome, (flag.watch looks scene).2)

theorem settles_unlessSet (flag : Flag) (outcome : Except ε α) (scene : Scene) :
    Settles flag 1 (unlessSet flag.look outcome scene) outcome scene := by
  have once : flag.watch 1 scene = flag.look scene := rfl
  rw [Settles, once]
  simp only [unlessSet, bind, StateT.bind]
  cases flag.look scene with
  | mk set after => cases set <;> rfl

theorem settles_request (flag : Flag) (exchange : StateM Scene (Except ε α)) (scene : Scene) :
    Settles flag 1 (awaitFrom flag.look (request exchange) scene) (exchange scene).1
      (exchange scene).2 := by
  rw [awaitFrom]
  exact settles_unlessSet flag (exchange scene).1 (exchange scene).2

theorem settles_ready (flag : Flag) (outcome : Except ε α) (scene : Scene) :
    Settles flag 1 (awaitFrom flag.look (ready outcome) scene) outcome scene := by
  rw [awaitFrom]
  exact settles_unlessSet flag outcome scene

/-- What a link makes of the outcome of its source: an error passes it by. -/
def goOn (next : α → StateM Scene (Except ε β)) : Except ε α → StateM Scene (Except ε β)
  | .ok value => next value
  | .error error => fun scene => (.error error, scene)

namespace Settles

theorem alike {came : Option (Except ε α) × Scene} {outcome : Except ε α}
    (settles : Settles flag looks came outcome scene) : came.2.Alike scene := by
  rw [show came = _ from settles]
  exact flag.alike_watch looks scene

/-- What nobody cancels is awaited to its outcome. -/
theorem await {pending : Pending (StateM Scene) ε α} {start : Scene} {outcome : Except ε α}
    (settles : Settles .unset looks (awaitFrom Flag.unset.look pending start) outcome scene)
    (free : pending.isCancelled = false) : pending.await start = (some outcome, scene) := by
  rw [Settles, Flag.watch_unset] at settles
  rw [Pending.await, awaitUnless_of_free free]
  exact settles

section Links

variable {source : Pending (StateM Scene) ε α} {start : Scene} {outcome : Except ε α}
  (settles : Settles flag looks (awaitFrom flag.look source start) outcome scene)

include settles

/-- A link goes on from the outcome of its source, unless one more look finds the flag set. -/
theorem thenTry (next : α → StateM Scene (Except ε β)) :
    awaitFrom flag.look (source.thenTry next) start =
      let seen := flag.watch (looks + 1) scene
      if seen.1 then (none, seen.2)
      else (some (goOn next outcome seen.2).1, (goOn next outcome seen.2).2) := by
  have more : flag.watch (looks + 1) scene =
      if (flag.watch looks scene).1 then flag.watch looks scene
      else flag.look (flag.watch looks scene).2 := rfl
  unfold Settles at settles
  cases watched : flag.watch looks scene with
  | mk set after =>
      rw [watched] at settles more
      simp only [awaitFrom, bind, StateT.bind, settles, more]
      cases set with
      | true => rfl
      | false =>
          simp only [Bool.false_eq_true, if_false, StateT.bind]
          cases flag.look after with
          | mk set last => cases set <;> cases outcome <;> rfl

/-- A link that only computes keeps the scene. -/
theorem thenCompute (compute : α → Except ε β) :
    Settles flag (looks + 1)
      (awaitFrom flag.look (source.thenTry fun value => pure (compute value)) start)
      (outcome.bind compute) scene := by
  rw [Settles, settles.thenTry]
  dsimp only
  split
  · rfl
  · cases outcome <;> rfl

theorem map (f : α → β) :
    Settles flag (looks + 1) (awaitFrom flag.look (source.map f) start) (outcome.map f) scene := by
  have settled := settles.thenCompute fun value => .ok (f value)
  cases outcome <;> exact settled

/-- An error passes by the chain that would be brought in, without one more look. -/
theorem andThen_error {error : ε} (failed : outcome = .error error) (next : α → Pending _ ε β) :
    Settles flag looks (awaitFrom flag.look (source.andThen next) start) (.error error) scene := by
  subst failed
  unfold Settles at settles ⊢
  simp only [awaitFrom, bind, StateT.bind, settles]
  cases flag.watch looks scene with
  | mk set after => cases set <;> rfl

/-- A chain that is brought in starts unless one more look finds the flag set. It looks at a flag
of its own, that nobody sets, and when it has settled there is a last look. -/
theorem andThen_ok {value : α} (succeeded : outcome = .ok value) (next : α → Pending _ ε β)
    {inner : Nat} {settled : Except ε β} {last : Scene} (free : (next value).isCancelled = false)
    (follows : Settles .unset inner (awaitFrom Flag.unset.look (next value)
      (flag.watch (looks + 1) scene).2) settled last) :
    awaitFrom flag.look (source.andThen next) start =
      let seen := flag.watch (looks + 1) scene
      if seen.1 then (none, seen.2) else unlessSet flag.look settled last := by
  subst succeeded
  have more : flag.watch (looks + 1) scene =
      if (flag.watch looks scene).1 then flag.watch looks scene
      else flag.look (flag.watch looks scene).2 := rfl
  have own : awaitFrom (pure false) (next value) (flag.watch (looks + 1) scene).2 =
      (some settled, last) := by
    rw [Settles, Flag.watch_unset] at follows
    exact follows
  unfold Settles at settles
  cases watched : flag.watch looks scene with
  | mk set after =>
      rw [watched] at settles more
      rw [more] at own ⊢
      simp only [awaitFrom, bind, StateT.bind, settles]
      cases set with
      | true => rfl
      | false =>
          simp only [Bool.false_eq_true, if_false, StateT.bind] at own ⊢
          cases looked : flag.look after with
          | mk set now =>
              rw [looked] at own
              cases set with
              | true => rfl
              | false => simp only [bind, StateT.bind, free, own, Bool.false_eq_true, if_false]

end Links

end Settles

end Pending

end RunBoard
