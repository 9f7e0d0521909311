import RedisPy.Pool.ConnectionPool
import Mathlib.Data.List.Rotate

/-!
# The rotation of replicas

`rotate_slaves` of a sentinel pool, blocking or asyncio: a generator that yields the replicas of a
service in turn and falls back to its master. Its counter belongs to the pool and moves only as far
as a generator is consumed.
-/

namespace RedisPy

/-! ## The generator -/

/-- What the sentinels answer to one generator, and the first number it may draw. -/
structure RotationWorld where
  /-- `discover_slaves`. -/
  slaves : Except Exc (List Address)
  /-- `random.randint(0, len(slaves) - 1)`. -/
  draw : Nat
  /-- `get_master_address`. -/
  master : Except Exc Address

/-- What `next` of a generator gives. -/
inductive Yielded where
  | address (address : Address)
  | raised (e : Exc)
deriving DecidableEq

/-- Where a generator is. -/
inductive RotationStage where
  /-- It was not started. -/
  | fresh
  /-- In the loop, with so many turns left. -/
  | rotating (slaves : List Address) (left : Nat)
  /-- It has yielded the master. -/
  | fallenBack
  /-- It has raised. -/
  | finished

namespace RotationWorld

variable (world : RotationWorld)

/-- The error in the end. -/
def slaveNotFound : Exc := { cls := slaveNotFoundError }

/-- The fallback to the master. -/
def yieldMaster : Yielded × RotationStage :=
  match world.master with
  | .ok address => (.address address, .fallenBack)
  | .error e =>
    if e.isinstance masterNotFoundError then (.raised slaveNotFound, .finished)
    else (.raised e, .finished)

/-- The next turn of the loop, with the `slave_rr_counter` of the pool. -/
def yieldSlave (slaves : List Address) :
    Nat → Option Nat → (Yielded × RotationStage) × Option Nat
  | 0, counter => (world.yieldMaster, counter)
  | _ + 1, none => ((.raised { cls := .typeError }, .finished), none)
  | left + 1, some counter =>
    let index := (counter + 1) % slaves.length
    match slaves[index]? with
    | some slave => ((.address slave, .rotating slaves left), some index)
    | none => ((.raised { cls := .indexError }, .finished), some index)

/-- `next`. -/
def advance : RotationStage → Option Nat → (Yielded × RotationStage) × Option Nat
  | .fresh, counter =>
    match world.slaves with
    | .error e => ((.raised e, .finished), counter)
    | .ok [] => (world.yieldMaster, counter)
    | .ok slaves => world.yieldSlave slaves slaves.length (some (counter.getD world.draw))
  | .rotating slaves left, counter => world.yieldSlave slaves left counter
  | .fallenBack, counter => ((.raised slaveNotFound, .finished), counter)
  | .finished, counter => ((.raised slaveNotFound, .finished), counter)

/-- What so many calls of `next` give, and the counter afterwards. -/
def consume : Nat → RotationStage → Option Nat → List Yielded × Option Nat
  | 0, _, counter => ([], counter)
  | _ + 1, .finished, counter => ([], counter)
  | n + 1, stage, counter =>
    let ((yielded, stage), counter) := world.advance stage counter
    let (rest, counter) := consume n stage counter
    (yielded :: rest, counter)

/-- `rotate_slaves()`, consumed so far. -/
def rotateSlaves (n : Nat) (counter : Option Nat) : List Yielded × Option Nat :=
  world.consume n .fresh counter

end RotationWorld

/-- The counter of a new pool after generators that were consumed so far, one after another. -/
def counterAfter (history : List (RotationWorld × Nat)) : Option Nat :=
  history.foldl (fun counter call => (call.1.rotateSlaves call.2 counter).2) none

/-! ## What is yielded -/

namespace RotationWorld

variable (world : RotationWorld)

/-- What follows the replicas: the master, or what its discovery raises; a master that is not found
is passed over. -/
def fallback : List Yielded :=
  match world.master with
  | .ok address => [.address address, .raised slaveNotFound]
  | .error e =>
    if e.isinstance masterNotFoundError then [.raised slaveNotFound] else [.raised e]

/-- A generator that was finished gives nothing. -/
theorem consume_finished (n : Nat) (counter : Option Nat) :
    world.consume n .finished counter = ([], counter) := by
  cases n <;> rfl

/-- After the replicas the fallback is left. -/
theorem consume_fallback (slaves : List Address) (n : Nat) (counter : Option Nat) :
    world.consume n (.rotating slaves 0) counter = (world.fallback.take n, counter) := by
  cases n with
  | zero => rfl
  | succ n =>
    unfold consume advance yieldSlave yieldMaster fallback
    cases world.master with
    | ok address =>
      cases n with
      | zero => rfl
      | succ n =>
        simp only [consume, advance, consume_finished]
        simp
    | error e =>
      by_cases missing : e.isinstance masterNotFoundError = true
      · simp only [if_pos missing, consume_finished]
        simp
      · simp only [if_neg missing, consume_finished]
        simp

/-- The loop yields its remaining turns in cyclic order, and leaves the counter at the last one. -/
theorem consume_rotating {slaves : List Address} (listed : slaves ≠ []) (left : Nat)
    (bound : left ≤ slaves.length) (n counter : Nat) :
    ∃ last, last % slaves.length = (counter + min n left) % slaves.length ∧
      world.consume n (.rotating slaves left) (some counter) =
        ((((slaves.rotate (counter + 1)).take left).map Yielded.address ++ world.fallback).take n,
          some last) := by
  induction left generalizing n counter with
  | zero =>
    refine ⟨counter, by simp, ?_⟩
    rw [consume_fallback]
    simp
  | succ left ih =>
    cases n with
    | zero => exact ⟨counter, by simp, rfl⟩
    | succ n =>
      have positive : 0 < slaves.length := List.length_pos_of_ne_nil listed
      obtain ⟨slave, behind, turned⟩ :=
        List.exists_cons_of_ne_nil (fun none => listed (List.rotate_eq_nil_iff.mp none) :
          slaves.rotate (counter + 1) ≠ [])
      have found : slaves[(counter + 1) % slaves.length]? = some slave := by
        have first := List.getElem?_rotate (n := counter + 1) positive
        rw [turned, Nat.zero_add] at first
        rw [← first]
        rfl
      have next : slaves.rotate ((counter + 1) % slaves.length + 1) = behind ++ [slave] := by
        rw [← List.rotate_rotate, List.rotate_mod, turned, List.rotate_cons_succ, List.rotate_zero]
      have size : behind.length + 1 = slaves.length := by
        rw [← List.length_rotate slaves (counter + 1), turned, List.length_cons]
      obtain ⟨last, counted, ran⟩ := ih (by omega) n ((counter + 1) % slaves.length)
      refine ⟨last, ?_, ?_⟩
      · rw [counted, Nat.mod_add_mod]
        congr 1
        omega
      · have stepped : world.consume (n + 1) (.rotating slaves (left + 1)) (some counter) =
            (.address slave :: (world.consume n (.rotating slaves left)
              (some ((counter + 1) % slaves.length))).1,
              (world.consume n (.rotating slaves left) (some ((counter + 1) % slaves.length))).2) := by
          rw [consume]
          · simp only [advance, yieldSlave, found]
          · simp
        have kept : (behind ++ [slave]).take left = behind.take left :=
          List.take_append_of_le_length (by omega)
        rw [stepped, ran, next, turned, kept]
        rfl

/-- A generator with replicas yields them all from where the counter stands, and then falls back. -/
theorem rotateSlaves_spec {slaves : List Address} (found : world.slaves = .ok slaves)
    (listed : slaves ≠ []) (n : Nat) (counter : Option Nat) :
    (world.rotateSlaves n counter).1 =
        ((slaves.rotate (counter.getD world.draw + 1)).map Yielded.address ++ world.fallback).take n ∧
      (0 < n → ∃ last, (world.rotateSlaves n counter).2 = some last ∧
        last % slaves.length =
          (counter.getD world.draw + min n slaves.length) % slaves.length) := by
  cases n with
  | zero => exact ⟨rfl, fun positive => absurd positive (by omega)⟩
  | succ n =>
    have begun : world.rotateSlaves (n + 1) counter =
        world.consume (n + 1) (.rotating slaves slaves.length) (some (counter.getD world.draw)) := by
      unfold rotateSlaves
      rw [consume, consume]
      · have started : world.advance .fresh counter =
            world.advance (.rotating slaves slaves.length) (some (counter.getD world.draw)) := by
          unfold advance
          rw [found]
          cases slaves with
          | nil => exact absurd rfl listed
          | cons first others => rfl
        rw [started]
      · simp
      · simp
    obtain ⟨last, counted, ran⟩ := world.consume_rotating listed slaves.length (Nat.le_refl _) (n + 1)
      (counter.getD world.draw)
    have whole : (slaves.rotate (counter.getD world.draw + 1)).take slaves.length =
        slaves.rotate (counter.getD world.draw + 1) :=
      List.take_of_length_le (by rw [List.length_rotate])
    rw [begun, ran, whole]
    exact ⟨rfl, fun _ => ⟨last, rfl, counted⟩⟩

end RotationWorld

/-- After every history of the counter, a generator whose list has replicas yields each of them once
in cyclic order and then falls back, however far it is consumed; and with the same list the next one
goes on right behind the last replica that was yielded. -/
theorem rotateSlaves_complete (history : List (RotationWorld × Nat)) (world : RotationWorld)
    (slaves : List Address) (found : world.slaves = .ok slaves) (listed : slaves ≠ []) :
    ∃ first, ∀ n,
      (world.rotateSlaves n (counterAfter history)).1 =
          ((slaves.rotate first).map Yielded.address ++ world.fallback).take n ∧
        (0 < n → ∀ next : RotationWorld, next.slaves = .ok slaves → ∀ m,
          (next.rotateSlaves m (world.rotateSlaves n (counterAfter history)).2).1 =
            ((slaves.rotate (first + min n slaves.length)).map Yielded.address ++ next.fallback).take m) := by
  refine ⟨(counterAfter history).getD world.draw + 1, fun n => ?_⟩
  obtain ⟨yields, counts⟩ := world.rotateSlaves_spec found listed n (counterAfter history)
  refine ⟨yields, fun positive next again m => ?_⟩
  obtain ⟨last, left, counted⟩ := counts positive
  rw [(next.rotateSlaves_spec again listed m _).1, left, Option.getD_some]
  have turned : slaves.rotate (last + 1) =
      slaves.rotate ((counterAfter history).getD world.draw + 1 + min n slaves.length) := by
    rw [← List.rotate_mod slaves (last + 1), ← Nat.mod_add_mod, counted, Nat.mod_add_mod,
      List.rotate_mod]
    congr 1
    omega
  rw [turned]

/-- A replica. -/
def firstReplica : Address := { host := "a".toList, port := 1 }

/-- Another replica. -/
def secondReplica : Address := { host := "b".toList, port := 2 }

/-- Two replicas, and no master. -/
def twoReplicas : RotationWorld where
  slaves := .ok [firstReplica, secondReplica]
  draw := 0
  master := .error { cls := masterNotFoundError }

/-- A generator after one that was left after its first replica. -/
theorem rotateSlaves_complete_twoReplicas :
    ∃ first, (twoReplicas.rotateSlaves 3
        (twoReplicas.rotateSlaves 1 (counterAfter [(twoReplicas, 1)])).2).1 =
      (([firstReplica, secondReplica].rotate (first + 1)).map Yielded.address ++
        twoReplicas.fallback).take 3 := by
  obtain ⟨first, complete⟩ := rotateSlaves_complete [(twoReplicas, 1)] twoReplicas _ rfl (by decide)
  exact ⟨first, (complete 1).2 (by decide) twoReplicas rfl 3⟩

/-- What follows the replicas if there is a master unless it is not found. -/
def MasterThenNotFound (world : RotationWorld) (ends : List Yielded) : Prop :=
  match world.master with
  | .ok address => ends = [.address address, .raised RotationWorld.slaveNotFound]
  | .error e =>
    if e.isinstance masterNotFoundError then ends = [.raised RotationWorld.slaveNotFound]
    else ∃ address, ends = [.address address, .raised RotationWorld.slaveNotFound]

/-- A sentinel that refuses `SENTINEL MASTERS`, beside one replica. -/
def refusedMaster : RotationWorld where
  slaves := .ok [firstReplica]
  draw := 0
  master := .error { cls := .noPermissionError }

/-- Another error of discovery is passed on: neither a master nor `SlaveNotFoundError` follows. -/
theorem refusedMaster_passed_on :
    ¬∃ first ends, (refusedMaster.rotateSlaves 3 (counterAfter [])).1 =
        ([firstReplica].rotate first).map Yielded.address ++ ends ∧
      MasterThenNotFound refusedMaster ends := by
  rintro ⟨first, ends, yields, address, follows⟩
  have ran : (refusedMaster.rotateSlaves 3 (counterAfter [])).1 =
      [.address firstReplica, .raised { cls := .noPermissionError }] := by
    decide
  rw [ran, List.rotate_singleton, follows] at yields
  cases yields

end RedisPy
