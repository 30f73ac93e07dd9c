import TwitterClone.Foundation.Scan
import TwitterClone.Utils.Strings

/-! How replicas name each other, in memory and in packets. -/
namespace TwitterClone

open Foundation

structure ReplicaInfo where
  id : Int := -1
  ip : Text := []
  port : Int := -1
  deriving DecidableEq, Repr

namespace ReplicaInfo

def isValid (info : ReplicaInfo) : Bool := !(info.id < 0 && info.port < 0 && info.ip.length == 0)

def serialize (info : ReplicaInfo) : Text :=
  showInt info.id ++ ' ' :: (info.ip ++ ' ' :: showInt info.port)

/-- The text ends at its first NUL. With other than three parts the result is the
default. -/
def deserialize (rawData : Text) : ReplicaInfo :=
  match split (cString rawData) [' '] with
  | [id, ip, port] => { id := atoi id, ip, port := atoi port }
  | _ => {}

/-- The test that two infos belong to different replicas. -/
def NotEqual (info other : ReplicaInfo) : Prop := info.ip ≠ other.ip ∨ info.port ≠ other.port

instance (info other : ReplicaInfo) : Decidable (info.NotEqual other) :=
  inferInstanceAs (Decidable (_ ∨ _))

/-- The smaller id counts as the greater one. -/
def GreaterThan (info other : ReplicaInfo) : Prop := info.id < other.id

instance (info other : ReplicaInfo) : Decidable (info.GreaterThan other) :=
  inferInstanceAs (Decidable (_ < _))

/-- Numbers that are `int`s and an address that can be sent as one word. -/
structure Sendable (info : ReplicaInfo) : Prop where
  id : IsInt info.id
  port : IsInt info.port
  word : ' ' ∉ info.ip
  terminated : nul ∉ info.ip

theorem deserialize_serialize {info : ReplicaInfo} (sendable : info.Sendable) :
    deserialize info.serialize = info := by
  have spaceFree : ∀ value, ' ' ∉ showInt value := notMem_showInt (by decide) (by decide)
  have nulFree : ∀ value, nul ∉ showInt value := notMem_showInt (by decide) (by decide)
  have whole : nul ∉ info.serialize := by
    simp only [serialize, List.mem_append, List.mem_cons, not_or]
    exact ⟨nulFree _, by decide, sendable.terminated, by decide, nulFree _⟩
  rw [deserialize, cString_of_free whole, serialize, split_append _ (spaceFree _),
    split_append _ sendable.word, split_of_free (spaceFree _)]
  dsimp only
  rw [atoi_showInt sendable.id, atoi_showInt sendable.port]

end ReplicaInfo

end TwitterClone
