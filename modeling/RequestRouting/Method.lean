import RequestRouting.Text.Blank
import RequestRouting.Text.Character

/-! The request methods of HTTP that a mapping can name, in their fixed order. -/
namespace RequestRouting

inductive Method where
  | get
  | head
  | post
  | put
  | patch
  | delete
  | options
  | trace
deriving DecidableEq, Repr

namespace Method

def all : List Method := [get, head, post, put, patch, delete, options, trace]

def name : Method → String
  | get => "GET"
  | head => "HEAD"
  | post => "POST"
  | put => "PUT"
  | patch => "PATCH"
  | delete => "DELETE"
  | options => "OPTIONS"
  | trace => "TRACE"

def rank : Method → Nat
  | get => 0
  | head => 1
  | post => 2
  | put => 3
  | patch => 4
  | delete => 5
  | options => 6
  | trace => 7

instance : Ord Method := ⟨compareOn rank⟩

instance : Std.TransOrd Method := inferInstanceAs (Std.TransCmp (compareOn rank))

theorem mem_all (m : Method) : m ∈ all := by cases m <;> decide

theorem rank_inj {m n : Method} (h : m.rank = n.rank) : m = n := by
  cases m <;> cases n <;> simp_all [rank]

instance : Std.LawfulEqOrd Method where
  eq_of_compare h := rank_inj (Std.LawfulEqOrd.eq_of_compare h)

def ofToken? (token : String) : Option Method := all.find? (·.name == token)

def parse? (text : String) : Option Method := ofToken? (Text.asciiUpper (Text.trim text))

@[simp] theorem ofToken?_name (m : Method) : ofToken? m.name = some m := by
  cases m <;> decide

end Method

structure UnknownMethod where
  text : String
deriving DecidableEq

def UnknownMethod.message (e : UnknownMethod) : String := "Unsupported HTTP method: " ++ e.text

def Method.parse (text : String) : Except UnknownMethod Method :=
  match parse? text with
  | some m => .ok m
  | none => .error ⟨text⟩

end RequestRouting
