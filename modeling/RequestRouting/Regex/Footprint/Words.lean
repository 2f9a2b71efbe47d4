import RequestRouting.Regex.Footprint.Builder
import RequestRouting.Text.Utf8

/-! The states that read one of several words: a tree in which words share what they begin
with. -/
namespace RequestRouting.Regex

def tailsByFirst (words : List (List UInt8)) : List (UInt8 × List (List UInt8)) :=
  words.foldr (fun word groups =>
    match word with
    | [] => groups
    | b :: tail =>
      if groups.any (·.1 == b) then
        groups.map fun (b', tails) => if b' == b then (b', tail :: tails) else (b', tails)
      else (b, [tail]) :: groups) []

/-- The words between those that end here. Of several that end before any other goes on, one
counts. -/
def wordRuns (words : List (List UInt8)) : List (List (List UInt8)) :=
  let split (words : List (List UInt8)) : List (List (List UInt8)) :=
    words.foldr (fun word runs =>
      match word, runs with
      | [], runs => [] :: runs
      | word, run :: runs => (word :: run) :: runs
      | word, [] => [[word]]) [[]]
  if words.head? = some [] then [] :: split (words.dropWhile List.isEmpty) else split words

/-- The states and extra bytes of a tree of words: a state for each run of words, with one
transition for each first byte, and a fork before them. -/
def wordTreeCost : (depth : Nat) → List (List UInt8) → Nat × Nat
  | 0, _ => (0, 0)
  | depth + 1, words =>
    let runs := wordRuns words
    let costs := runs.map fun run =>
      let groups := tailsByFirst run
      let below := (groups.filter (·.2.any (!·.isEmpty))).map fun (_, tails) =>
        wordTreeCost depth tails
      let states := below.foldl (fun n c => n + c.1) (if groups.isEmpty then 0 else 1)
      let bytes := below.foldl (fun n c => n + c.2) (match groups with
        | [] => 0
        | [_] => arrowBytes
        | _ => groups.length * transitionBytes + arrowBytes)
      (states, bytes)
    (costs.foldl (fun n c => n + c.1) 1,
      costs.foldl (fun n c => n + c.2) ((runs.length - 1) * arrowBytes))

def literalBytes (direction : Direction) (text : List Char) : List UInt8 :=
  let bytes := Text.encodeUtf8 (String.ofList text)
  if direction = .backward then bytes.reverse else bytes

def wordsCost (direction : Direction) (words : List (List Char)) : Nat × Nat :=
  let words := words.map (literalBytes direction)
  let depth := words.foldl (fun n word => Nat.max n word.length) 0
  let (count, bytes) := wordTreeCost depth words
  (count + 1, bytes)

end RequestRouting.Regex
