import SkfService.Interaction.Run

/-! The native provider's guards: reference-counted vendor handles behind one library gate.

Every guard is a box around a counted reference, and every guard but a device holds a counted
reference of the guard it was opened on. Methods and destructors are sequences of instructions, run
by any number of threads that interleave between any two of them. -/

set_option autoImplicit false

namespace SkfService.Native

open Interaction

inductive GuardKind
  | NativeDevice
  | NativeApplication
  | NativeContainer
  | NativeDigest
  deriving DecidableEq

def GuardKind.parent : GuardKind → Option GuardKind
  | NativeDevice => none
  | NativeApplication | NativeDigest => some NativeDevice
  | NativeContainer => some NativeApplication

/-- A guard under its number. `strong` counts the references there are, `boxed` says whether its
owner still has the box. A null handle is 0. -/
structure Guard where
  kind : GuardKind
  parent : Option Nat
  raw : Nat
  strong : Nat
  boxed : Bool

/-- `gateLock` waits for the gate and `gateUnlock` ends the scope of its lock; `openOn` and `call`
are vendor calls through a guard, `openOn` with the guard it makes. -/
inductive Instr
  | gateLock
  | gateUnlock
  | openOn (kind : GuardKind) (parent : Option Nat)
  | call (guard : Nat)
  | close (guard : Nat)
  | dropArc (guard : Nat)
  deriving DecidableEq

/-- The guard a method is called on, which it borrows while it runs. -/
def Instr.borrows : Instr → Option Nat
  | openOn _ parent => parent
  | call guard => some guard
  | _ => none

/-- A method: the gate is taken first and given back last. -/
def method (vendor : Instr) : List Instr := [.gateLock, vendor, .gateUnlock]

/-- `Drop` of a guard: it closes its handle under the gate, and then its fields are dropped. -/
def Guard.drop (n : Nat) (guard : Guard) : List Instr :=
  .gateLock :: .close n :: .gateUnlock :: guard.parent.toList.map .dropArc

def clone (guards : List Guard) : Option Nat → List Guard
  | some n => guards.modify n fun guard => { guard with strong := guard.strong + 1 }
  | none => guards

def release (guards : List Guard) (n : Nat) : List Guard :=
  guards.modify n fun guard => { guard with strong := guard.strong - 1 }

def unbox (guards : List Guard) (n : Nat) : List Guard :=
  guards.modify n fun guard => { guard with boxed := false }

inductive Happened
  | began
  | boxDropped (guard : Nat)
  | locked
  | unlocked
  | opened (guard : Nat)
  | refused
  | called (guard : Nat)
  | closed (guard : Nat)
  | skipped (guard : Nat)
  | arcDropped (guard : Nat)

structure Entry where
  thread : Nat
  happened : Happened

/-- `threads` are the instructions each thread still has to run. -/
structure State where
  guards : List Guard
  gate : Option Nat
  threads : List (List Instr)

/-- One instruction other than those of the gate, with the instructions it puts first. Any open can
be refused or come back with any handle. Only the last reference runs `Drop`. -/
inductive Executes (guards : List Guard) : Instr → Happened → List Guard → List Instr → Prop
  | opened {kind : GuardKind} {parent : Option Nat} (raw : Nat) :
      Executes guards (.openOn kind parent) (.opened guards.length)
        (clone guards parent ++ [⟨kind, parent, raw, 1, true⟩]) []
  | refused {kind : GuardKind} {parent : Option Nat} :
      Executes guards (.openOn kind parent) .refused guards []
  | called {n : Nat} : Executes guards (.call n) (.called n) guards []
  | close {n : Nat} {guard : Guard} (found : guards[n]? = some guard) :
      Executes guards (.close n) (if guard.raw = 0 then .skipped n else .closed n) guards []
  | dropArc {n : Nat} {guard : Guard} (found : guards[n]? = some guard) :
      Executes guards (.dropArc n) (.arcDropped n) (release guards n)
        (if guard.strong = 1 then guard.drop n else [])

/-- A method can be called on a guard whose box is still there. -/
inductive Callable (guards : List Guard) : Instr → Prop
  | openDevice : Callable guards (.openOn .NativeDevice none)
  | openOn {kind : GuardKind} {n : Nat} {guard : Guard} (found : guards[n]? = some guard)
      (boxed : guard.boxed = true)
      (fits : kind.parent = some guard.kind) : Callable guards (.openOn kind (some n))
  | call {n : Nat} {guard : Guard} (found : guards[n]? = some guard) (boxed : guard.boxed = true) :
      Callable guards (.call n)

/-- A thread that runs no method can call one, or drop a box that no method borrows. -/
inductive Step : State → Entry → State → Prop
  | invoke {guards : List Guard} {gate : Option Nat} {front back : List (List Instr)}
      {vendor : Instr}
      (callable : Callable guards vendor) :
      Step ⟨guards, gate, front ++ [] :: back⟩ ⟨front.length, .began⟩
        ⟨guards, gate, front ++ method vendor :: back⟩
  | dropBox {guards : List Guard} {gate : Option Nat} {front back : List (List Instr)} {n : Nat}
      {guard : Guard}
      (found : guards[n]? = some guard) (boxed : guard.boxed = true)
      (unborrowed : ∀ thread ∈ front ++ back, ∀ instr ∈ thread, instr.borrows ≠ some n) :
      Step ⟨guards, gate, front ++ [] :: back⟩ ⟨front.length, .boxDropped n⟩
        ⟨unbox guards n, gate, front ++ [.dropArc n] :: back⟩
  | lock {guards : List Guard} {front back : List (List Instr)} {rest : List Instr} :
      Step ⟨guards, none, front ++ (.gateLock :: rest) :: back⟩ ⟨front.length, .locked⟩
        ⟨guards, some front.length, front ++ rest :: back⟩
  | unlock {guards : List Guard} {front back : List (List Instr)} {rest : List Instr} :
      Step ⟨guards, some front.length, front ++ (.gateUnlock :: rest) :: back⟩
        ⟨front.length, .unlocked⟩
        ⟨guards, none, front ++ rest :: back⟩
  | execute {guards after : List Guard} {gate : Option Nat} {front back : List (List Instr)}
      {instr : Instr}
      {rest pushed : List Instr} {happened : Happened}
      (executes : Executes guards instr happened after pushed) :
      Step ⟨guards, gate, front ++ (instr :: rest) :: back⟩ ⟨front.length, happened⟩
        ⟨after, gate, front ++ (pushed ++ rest) :: back⟩

def State.new (threads : Nat) : State := ⟨[], none, List.replicate threads []⟩

abbrev Reached (threads : Nat) : List Entry → State → Prop := Run Step (.new threads)

end SkfService.Native
