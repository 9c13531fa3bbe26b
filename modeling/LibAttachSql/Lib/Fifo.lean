import Mathlib.Data.List.Basic

/-!
# Streams that are consumed from the front

What has been sent, how much of it has been taken, and a mark in it.  This is what a network buffer is for, with no
memory in it: sending appends, taking moves forward, and a mark is a place to take up to.
-/

namespace LibAttachSql.Lib

/-- A stream: everything sent so far, the number of elements taken, and a marked position. -/
structure Fifo (α : Type) where
  sent : List α
  taken : ℕ
  mark : Option ℕ

namespace Fifo

variable {α : Type}

/-- The stream before anything is sent. -/
def empty : Fifo α := { sent := [], taken := 0, mark := none }

/-- What was sent and not taken yet, in order. -/
def unread (f : Fifo α) : List α := f.sent.drop f.taken

def send (f : Fifo α) (xs : List α) : Fifo α := { f with sent := f.sent ++ xs }

def take (f : Fifo α) (n : ℕ) : Fifo α := { f with taken := f.taken + n }

/-- Marks the position `n` elements ahead. -/
def setMark (f : Fifo α) (n : ℕ) : Fifo α := { f with mark := some (f.taken + n) }

/-- Takes everything up to the mark. -/
def takeToMark (f : Fifo α) : Fifo α := { f with taken := f.mark.getD f.taken }

@[simp] lemma unread_empty : (empty : Fifo α).unread = [] := rfl

lemma unread_send (f : Fifo α) (xs : List α) (h : f.taken ≤ f.sent.length) :
    (f.send xs).unread = f.unread ++ xs := by
  unfold unread send
  exact List.drop_append_of_le_length h

@[simp] lemma unread_take (f : Fifo α) (n : ℕ) : (f.take n).unread = f.unread.drop n := by
  unfold unread take
  rw [List.drop_drop]

@[simp] lemma unread_setMark (f : Fifo α) (n : ℕ) : (f.setMark n).unread = f.unread := rfl

end Fifo

end LibAttachSql.Lib
