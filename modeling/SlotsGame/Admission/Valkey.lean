/-
# SlotsGame.Admission.Valkey -- the store of the shared admission scripts

A script runs atomically and at one instant.  A key is gone once its expiry is past;
`PTTL` is what is left of it.  The scripts keep a MessagePack table of numbers, of
which they check the shape when they read it back.
-/
import Mathlib.Algebra.Order.Floor.Semiring
import Mathlib.Data.Rat.Floor
import SlotsGame.Theory.TokenBucket

namespace SlotsGame.Admission

set_option autoImplicit false

/-- What `cmsgpack.unpack` makes of a stored string. -/
inductive Packed
  | garbage
  | table (fields : List ℚ)
  deriving DecidableEq

/-- A stored string and the millisecond after which it is gone. -/
structure Entry where
  value : Packed
  expireAt : Nat
  deriving DecidableEq

/-- The keys of a server. -/
abbrev Keyspace := String → Option Entry

namespace Keyspace

variable (keys : Keyspace) (now : Nat)

/-- `GET`; the entry, for its expiry. -/
def get (key : String) : Option Entry := (keys key).filter fun entry => decide (now ≤ entry.expireAt)

/-- `SET key value PX ttl`, or `MSET` and `PEXPIRE` -/
def set (key : String) (value : Packed) (ttl : Nat) : Keyspace :=
  Function.update keys key (some { value := value, expireAt := now + ttl })

/-- `PTTL` of an entry that is there. -/
def pttl (entry : Entry) : Nat := entry.expireAt - now

end Keyspace

/-- `maximumBucketTTL` in milliseconds. -/
def maximumBucketTTL : Int := 86400000

end SlotsGame.Admission
