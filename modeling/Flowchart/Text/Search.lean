/-!
# Finding, replacing and splitting

Literal text is searched from left to right, and a match ends before the next one begins. The
search is stated on lists of characters, which is the view of a `String` every later proof takes.
An empty needle is never searched for; all needles of this library are fixed tokens or hold a brace.
-/

namespace Flowchart

namespace Text

/-- What follows `needle` in a text that starts with it. -/
def after? : (needle text : List Char) → Option (List Char)
  | [], rest => some rest
  | _ :: _, [] => none
  | n :: needle, c :: text => if n = c then after? needle text else none

/-- The text starts with the needle. -/
def starts (needle text : List Char) : Bool :=
  (after? needle text).isSome

/-- The text ends with the needle. -/
def ends (needle text : List Char) : Bool :=
  starts needle.reverse text.reverse

/-- The needle occurs somewhere in the text. -/
def occurs (needle : List Char) : List Char → Bool
  | [] => needle.isEmpty
  | c :: text => starts needle (c :: text) || occurs needle text

/-- `replaceFrom needle value skip text` drops `skip` characters, which belong to a match already
replaced, and then puts `value` in place of every match. -/
def replaceFrom (needle value : List Char) : Nat → List Char → List Char
  | _, [] => []
  | skip + 1, _ :: text => replaceFrom needle value skip text
  | 0, c :: text =>
    if starts needle (c :: text) then value ++ replaceFrom needle value (needle.length - 1) text
    else c :: replaceFrom needle value 0 text

/-- Every match of `needle` becomes `value`; what `value` brings in is not searched again. -/
def replace (needle value text : List Char) : List Char :=
  replaceFrom needle value 0 text

/-- Puts a character in front of the first piece. -/
def consFirst (c : Char) : List (List Char) → List (List Char)
  | [] => [[c]]
  | piece :: pieces => (c :: piece) :: pieces

/-- `piecesFrom needle skip text` drops `skip` characters and then cuts at every match. -/
def piecesFrom (needle : List Char) : Nat → List Char → List (List Char)
  | _, [] => [[]]
  | skip + 1, _ :: text => piecesFrom needle skip text
  | 0, c :: text =>
    if starts needle (c :: text) then [] :: piecesFrom needle (needle.length - 1) text
    else consFirst c (piecesFrom needle 0 text)

/-- The pieces between the matches of `needle`: one more than there are matches. -/
def pieces (needle text : List Char) : List (List Char) :=
  piecesFrom needle 0 text

/-- Drops the characters of a class at both ends. -/
def trimBy (p : Char → Bool) (text : List Char) : List Char :=
  ((text.dropWhile p).reverse.dropWhile p).reverse

/-- Cuts at the first character of that kind, which is dropped. -/
def cutAt? (c : Char) : List Char → Option (List Char × List Char)
  | [] => none
  | d :: text =>
    if d = c then some ([], text) else (cutAt? c text).map fun (l, r) => (d :: l, r)

/-- The texts are equal but for the case of ASCII letters. -/
def sameWord (s t : String) : Bool :=
  s.toList.map Char.toLower == t.toList.map Char.toLower

/-! ## Small laws -/

@[simp] theorem after?_append (needle rest : List Char) :
    after? needle (needle ++ rest) = some rest := by
  induction needle with
  | nil => rfl
  | cons n needle ih => simp [after?, ih]

theorem eq_append_of_after? {needle text rest : List Char} (h : after? needle text = some rest) :
    text = needle ++ rest := by
  induction needle generalizing text with
  | nil => simpa [after?] using h
  | cons n needle ih =>
    cases text with
    | nil => simp [after?] at h
    | cons c text =>
      by_cases hc : n = c
      · subst hc; simp [after?] at h; simp [ih h]
      · simp [after?, hc] at h

end Text

end Flowchart
