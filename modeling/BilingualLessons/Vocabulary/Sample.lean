import BilingualLessons.Vocabulary.Provider

namespace BilingualLessons.Vocabulary

/-!
# Samples

* `sampleBy` — a sample without replacement, given a way to pick a position.
* `Store.randomProvider` — a store that samples at random.
-/

/-- Takes up to `count` elements of a list, each of them once. `pick` gives a position among as many
    as it is told; one beyond the end stands for the first. -/
def sampleBy (pick : Nat → StateM σ Nat) : Nat → List α → StateM σ (List α)
  | 0, _ => return []
  | _, [] => return []
  | count + 1, first :: others => do
    let pool := first :: others
    let position := (← pick pool.length) % pool.length
    let rest ← sampleBy pick count (pool.eraseIdx position)
    return pool[position]?.getD first :: rest

/-- A position among `size`, from a generator of random numbers. -/
def pickRandomly [RandomGen γ] (size : Nat) : StateM γ Nat := fun generator =>
  randNat generator 0 (size - 1)

/-- A store that samples at random. -/
def Store.randomProvider [RandomGen γ] (store : Store) : Provider γ :=
  store.provider (sampleBy pickRandomly)

end BilingualLessons.Vocabulary
