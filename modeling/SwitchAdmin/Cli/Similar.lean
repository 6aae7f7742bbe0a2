/-!
# Similar names

When a command line names a subcommand or flag that does not exist, the closest existing
names are suggested. Closeness is the similarity of the two character sequences:
with `m` matching characters (equal characters no further apart than half the longer
length, less one) and `t` half the number of matched characters out of order, it is
`(m / |a| + m / |b| + (m - t) / m) / 3`, and `0` when nothing matches.

A name is suggested when its similarity is above `7/10`. The comparison is exact:
similarities are kept as fractions.
-/

namespace SwitchAdmin

namespace Similar

/-- Marks the first unmarked position of `b` within `[lo, hi)` holding `c`, if any. -/
def claim (c : Char) (lo hi : Nat) (b : List Char) (taken : List Bool) : Option (List Bool) :=
  let rec go : Nat → List Char → List Bool → Option (List Bool)
    | _, [], _ => none
    | _, _, [] => none
    | j, d :: ds, t :: ts =>
      if j ≥ hi then none
      else if lo ≤ j && d == c && !t then some (true :: ts)
      else (go (j + 1) ds ts).map (t :: ·)
  go 0 b taken

/-- The matching of `a` against `b`: which positions of each are matched. -/
def matching (a b : List Char) : List Bool × List Bool :=
  let range := (max a.length b.length / 2) - 1
  let step := fun (acc : List Bool × List Bool × Nat) (c : Char) =>
    let (aFlags, bFlags, i) := acc
    let lo := i - range
    let hi := min b.length (i + range + 1)
    match claim c lo hi b bFlags with
    | some bFlags' => (aFlags ++ [true], bFlags', i + 1)
    | none => (aFlags ++ [false], bFlags, i + 1)
  let (aFlags, bFlags, _) := a.foldl step ([], List.replicate b.length false, 0)
  (aFlags, bFlags)

/-- The characters at the marked positions. -/
def marked (cs : List Char) (flags : List Bool) : List Char :=
  (cs.zip flags).filterMap fun (c, f) => if f then some c else none

/-- The similarity of two names, as a numerator and denominator. -/
def similarity (a b : String) : Nat × Nat :=
  let as := a.toList
  let bs := b.toList
  if as.isEmpty && bs.isEmpty then (1, 1)
  else if as.isEmpty || bs.isEmpty then (0, 1)
  else
    let (aFlags, bFlags) := matching as bs
    let m := (aFlags.filter id).length
    if m = 0 then (0, 1)
    else
      let out := ((marked as aFlags).zip (marked bs bFlags)).countP fun (x, y) => x != y
      let t := out / 2
      -- m/|a| + m/|b| + (m-t)/m over the common denominator |a|·|b|·m, divided by 3
      (m * bs.length * m + m * as.length * m + (m - t) * as.length * bs.length,
        3 * as.length * bs.length * m)

/-- Whether `b` is similar enough to `a` to be suggested. -/
def close (a b : String) : Bool :=
  let (num, den) := similarity a b
  10 * num > 7 * den

/-- The candidates similar enough to `a`, least similar first; candidates equally similar
keep their order. -/
def suggestions (a : String) (candidates : List String) : List String :=
  let scored := (candidates.filter (close a)).map fun c => (similarity a c, c)
  let le := fun (x y : (Nat × Nat) × String) => decide (x.1.1 * y.1.2 ≤ y.1.1 * x.1.2)
  (scored.mergeSort le).map (·.2)

/-- The most similar candidate, if any is similar enough. -/
def best (a : String) (candidates : List String) : Option String :=
  (suggestions a candidates).getLast?

end Similar

end SwitchAdmin
