import InputHub.Change
import InputHub.Memory.Platform

/-!
# Telling listeners that call back

A change of a memory platform's devices is told to every listener that is registered at that moment,
in ascending order of their numbers. A listener may call back into the platform before the next one
is told; a detached device then starts a round of its own at once.

The work that is left stands on an agenda, and `Delivery.step?` does the first piece of it. Every
piece leaves fewer devices, or fewer listeners to tell, or fewer things to do, so `Delivery.run`
ends.
-/

namespace InputHub.Memory

/-- What a listener does after it was told of a change. -/
inductive Reaction where
  /-- Detach a device. -/
  | detach (device : Int32)
  /-- Remove a listener. -/
  | unlisten (listener : Nat)
  /-- Make the platform unavailable. -/
  | goOffline
  /-- List the devices. -/
  | enumerate
  deriving DecidableEq

/-- What the listener under a number went through. -/
inductive Call where
  | told (listener : Nat) (change : Change) (device : Int32)
  /-- The listener listed the devices: how many there were, or why not. -/
  | saw (listener : Nat) (devices : Except Error Nat)

/-- A listener: what it does after it was told of a change of a device. It may go by all that was
called before. -/
structure Listener where
  react : Change → Int32 → List Call → List Reaction

/-- A piece of work: telling the listener under a number of a change, or doing what it does then. -/
inductive Task where
  | tell (number : Nat) (listener : Listener) (change : Change) (device : Int32)
  | react (number : Nat) (reaction : Reaction)

/-- Whether a listener is to be told of something. -/
def Task.isTell : Task → Bool
  | tell .. => true
  | react .. => false

/-- A platform in the middle of telling its listeners: what is left to do and what was called. -/
structure Delivery where
  platform : MemoryPlatform Listener
  agenda : List Task
  calls : List Call

namespace Delivery

/-- A platform with nothing left to do. -/
def idle (p : MemoryPlatform Listener) : Delivery := ⟨p, [], []⟩

/-- Puts a round on the agenda, before everything else: every listener is to be told of a change. -/
def tellAll (d : Delivery) (change : Change) (device : Int32) : Delivery :=
  { d with
    agenda := d.platform.listeners.toList.map (fun l => .tell l.1 l.2 change device) ++ d.agenda }

/-- Detaches a device that is there and puts the round about it on the agenda. -/
def detach (d : Delivery) (device : Int32) : Delivery :=
  if d.platform.devices.contains device then
    { d with platform := d.platform.remove device }.tellAll .removed device
  else d

/-- What a listener's reaction does. -/
def perform (d : Delivery) (number : Nat) (reaction : Reaction) : Delivery :=
  match reaction with
  | .detach device => d.detach device
  | .unlisten n => { d with platform := d.platform.unlisten n }
  | .goOffline => { d with platform := d.platform.setAvailable false }
  | .enumerate =>
    let (report, platform) := d.platform.enumerate
    { d with platform, calls := d.calls ++ [.saw number (report.map List.length)] }

/-- Does the first piece of work. -/
def step? (d : Delivery) : Option Delivery :=
  match d.agenda with
  | [] => none
  | .tell n l change device :: rest =>
    some { d with
      agenda := (l.react change device d.calls).map (.react n) ++ rest
      calls := d.calls ++ [.told n change device] }
  | .react n reaction :: rest => some ({ d with agenda := rest }.perform n reaction)

/-- How many listeners are to be told of something. -/
def tells (d : Delivery) : Nat := d.agenda.countP Task.isTell

/-- Detaching a device leaves fewer of them, or the platform as it was. -/
theorem detach_left (d : Delivery) (device : Int32) :
    (d.detach device).platform.devices.size < d.platform.devices.size ∨ d.detach device = d := by
  unfold detach
  split
  · rename_i h
    exact .inl (MemoryPlatform.size_remove_lt (Std.TreeMap.contains_iff_mem.1 h))
  · exact .inr rfl

/-- A reaction detaches a device, or leaves devices and agenda as they are. -/
theorem perform_left (d : Delivery) (number : Nat) (reaction : Reaction) :
    (d.perform number reaction).platform.devices.size < d.platform.devices.size ∨
      (d.perform number reaction).platform.devices = d.platform.devices ∧
        (d.perform number reaction).agenda = d.agenda := by
  cases reaction with
  | detach device =>
    rcases d.detach_left device with h | h
    · exact .inl h
    · right
      rw [perform, h]
      exact ⟨rfl, rfl⟩
  | unlisten n => exact .inr ⟨rfl, rfl⟩
  | goOffline => exact .inr ⟨rfl, rfl⟩
  | enumerate =>
    refine .inr ⟨?_, rfl⟩
    simp only [perform, MemoryPlatform.enumerate]
    split <;> rfl

/-- Every piece of work leaves fewer devices, or as many devices and fewer listeners to tell, or as
many of both and fewer things to do. -/
theorem step?_left {d e : Delivery} (h : d.step? = some e) :
    Prod.Lex (· < ·) (Prod.Lex (· < ·) (· < ·))
      (e.platform.devices.size, e.tells, e.agenda.length)
      (d.platform.devices.size, d.tells, d.agenda.length) := by
  obtain ⟨p, agenda, calls⟩ := d
  cases agenda with
  | nil => simp [step?] at h
  | cons t rest =>
    cases t with
    | tell n l change device =>
      simp only [step?, Option.some.injEq] at h
      subst h
      have hreact : ((l.react change device calls).map (Task.react n)).countP Task.isTell = 0 := by
        simp [List.countP_eq_zero, Task.isTell]
      apply Prod.Lex.right
      apply Prod.Lex.left
      simp only [tells]
      rw [List.countP_append, hreact, List.countP_cons_of_pos (by simp [Task.isTell])]
      omega
    | react n reaction =>
      simp only [step?, Option.some.injEq] at h
      subst h
      rcases perform_left ⟨p, rest, calls⟩ n reaction with h | ⟨hdevices, hagenda⟩
      · exact Prod.Lex.left _ _ h
      · simp only [tells, hdevices, hagenda]
        apply Prod.Lex.right
        rw [List.countP_cons_of_neg (by simp [Task.isTell])]
        apply Prod.Lex.right
        simp

/-- Does all the work there is. -/
def run (d : Delivery) : Delivery :=
  match _h : d.step? with
  | none => d
  | some e => e.run
termination_by (d.platform.devices.size, d.tells, d.agenda.length)
decreasing_by exact step?_left (by assumption)

end Delivery

/-! ## Operations -/

/-- Attaches a device and tells of it. -/
def attach (p : MemoryPlatform Listener) (d : Descriptor) : Delivery :=
  ((Delivery.idle (p.put d)).tellAll .added d.platformId).run

/-- Describes a device anew and tells of it. -/
def change (p : MemoryPlatform Listener) (d : Descriptor) : Delivery :=
  ((Delivery.idle (p.put d)).tellAll .changed d.platformId).run

/-- Detaches a device and tells of it, if it is there. -/
def detach (p : MemoryPlatform Listener) (id : Int32) : Delivery :=
  ((Delivery.idle p).detach id).run

end InputHub.Memory
