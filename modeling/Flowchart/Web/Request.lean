import Flowchart.SortedMap

/-!
# Requests

A request asks something of an address by a method, with headers and perhaps a body. The names of
headers are words of letters, digits and some signs, and count in lower case; their values hold no
control character of the first 128 but the tab.
-/

namespace Flowchart

namespace Web

/-- What is asked of an address. -/
inductive Method where
  /-- Read. -/
  | get
  /-- Add. -/
  | post
  /-- Replace. -/
  | put
  /-- Change. -/
  | patch
  /-- Remove. -/
  | delete
deriving DecidableEq, Inhabited

namespace Method

/-- The methods. -/
def all : List Method :=
  [get, post, put, patch, delete]

/-- How a method is written. -/
def text : Method → String
  | get => "GET"
  | post => "POST"
  | put => "PUT"
  | patch => "PATCH"
  | delete => "DELETE"

/-- Reads a method in upper case. -/
def ofText? (s : String) : Option Method :=
  all.find? (·.text == s)

/-- Requests by this method have a body. -/
def hasBody : Method → Bool
  | post | put | patch => true
  | get | delete => false

end Method

/-- A request. -/
structure Request where
  /-- What is asked. -/
  method : Method
  /-- Of which address. -/
  url : String
  /-- The headers under their names in lower case. -/
  headers : SortedMap String := .empty
  /-- The body, empty for none. -/
  body : String := ""
deriving DecidableEq, Inhabited

/-! ## Headers -/

/-- The character may stand in the name of a header. -/
def isTokenChar (c : Char) : Bool :=
  c.isAlphanum || "!#$%&'*+-.^_\x60|~".toList.contains c

/-- The longest name of a header. -/
def maxTokenLength : Nat :=
  65535

/-- The name of a header. -/
def isToken (name : String) : Bool :=
  !name.toList.isEmpty && name.toList.length ≤ maxTokenLength && name.toList.all isTokenChar

/-- The value of a header holds no control character but the tab. -/
def isHeaderValue (value : String) : Bool :=
  value.toList.all fun c => c == '\t' || (32 ≤ c.toNat && c.toNat != 127)

/-- The name of a header as it is sent. -/
def lowerCase (name : String) : String :=
  String.ofList (name.toList.map Char.toLower)

end Web

end Flowchart
