import EventTransport.Bus.Lookup
import EventTransport.Event.Basic

/-!
Contract: the private queues through which buses reach subscribers.

Owns: `Mailboxes`, what has been put into the mailbox of each living subscriber and not been taken
out, by serial.

A mailbox is open as long as its subscriber lives; only open ones take events.

Main statements: whatever is done to one mailbox leaves every other one alone.
-/

namespace EventTransport

/-- The open mailboxes by the serials of their subscribers. -/
structure Mailboxes where
  boxes : List (Nat × List Event)
deriving Inhabited

namespace Mailboxes

def empty : Mailboxes := ⟨[]⟩

def isOpen (mail : Mailboxes) (serial : Nat) : Bool := (mail.boxes.lookup serial).isSome

def waiting (mail : Mailboxes) (serial : Nat) : List Event := (mail.boxes.lookup serial).getD []

/-- A mailbox opened for a new subscriber. -/
def openBox (mail : Mailboxes) (serial : Nat) : Mailboxes := ⟨(serial, []) :: mail.boxes⟩

/-- A mailbox closed with its subscriber. -/
def closeBox (mail : Mailboxes) (serial : Nat) : Mailboxes :=
  ⟨mail.boxes.filter fun box => box.1 ≠ serial⟩

/-- The content of an open mailbox replaced. -/
def store (mail : Mailboxes) (serial : Nat) (events : List Event) : Mailboxes :=
  ⟨mail.boxes.map fun box => if box.1 = serial then (serial, events) else box⟩

/-- A copy of an event put into an open mailbox. -/
def push (mail : Mailboxes) (event : Event) (serial : Nat) : Mailboxes :=
  mail.store serial (mail.waiting serial ++ [event])

def takeAll (mail : Mailboxes) (serial : Nat) : List Event × Mailboxes :=
  (mail.waiting serial, mail.store serial [])

/-- Replacing what a mailbox holds opens and closes none. -/
@[simp] theorem isOpen_store (mail : Mailboxes) (serial other : Nat) (events : List Event) :
    (mail.store serial events).isOpen other = mail.isOpen other := by
  unfold store isOpen
  rw [lookup_replace]
  by_cases here : other = serial
  · subst here
    simp
  · simp [here]

/-- What an open mailbox holds is replaced, and no other one touched. -/
theorem waiting_store (mail : Mailboxes) (serial other : Nat) (events : List Event)
    (isOpen : mail.isOpen serial = true) :
    (mail.store serial events).waiting other =
      if other = serial then events else mail.waiting other := by
  obtain ⟨present, found⟩ := Option.isSome_iff_exists.mp isOpen
  unfold store waiting
  rw [lookup_replace]
  by_cases here : other = serial <;> simp [here, found]

/-- A copy reaches the open mailbox it is put into and no other one. -/
theorem waiting_push (mail : Mailboxes) (event : Event) (serial other : Nat)
    (isOpen : mail.isOpen serial = true) :
    (mail.push event serial).waiting other =
      if other = serial then mail.waiting serial ++ [event] else mail.waiting other :=
  waiting_store mail serial other _ isOpen

/-- Putting in a copy opens and closes no mailbox. -/
theorem isOpen_push (mail : Mailboxes) (event : Event) (serial other : Nat) :
    (mail.push event serial).isOpen other = mail.isOpen other :=
  isOpen_store mail serial other _

theorem isOpen_openBox (mail : Mailboxes) (serial other : Nat) :
    (mail.openBox serial).isOpen other = (other == serial || mail.isOpen other) := by
  unfold openBox isOpen
  cases here : other == serial <;> simp [List.lookup_cons, here]

/-- A new mailbox is empty. -/
theorem waiting_openBox (mail : Mailboxes) (serial other : Nat) :
    (mail.openBox serial).waiting other = if other = serial then [] else mail.waiting other := by
  unfold openBox waiting
  by_cases here : other = serial
  · simp [here]
  · have apart : (other == serial) = false := by simpa using here
    simp [List.lookup_cons, here, apart]

theorem isOpen_closeBox (mail : Mailboxes) (serial other : Nat) :
    (mail.closeBox serial).isOpen other = (other != serial && mail.isOpen other) := by
  unfold closeBox isOpen
  rw [lookup_filter_ne]
  by_cases here : other = serial <;> simp [here]

/-- A mailbox is closed with what it holds, and no other one touched. -/
theorem waiting_closeBox (mail : Mailboxes) (serial other : Nat) :
    (mail.closeBox serial).waiting other = if other = serial then [] else mail.waiting other := by
  unfold closeBox waiting
  rw [lookup_filter_ne]
  by_cases here : other = serial <;> simp [here]

end Mailboxes

end EventTransport
