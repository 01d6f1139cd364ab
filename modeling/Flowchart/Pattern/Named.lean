import Flowchart.Unicode.Age
import Flowchart.Unicode.Break.Sentence

/-!
# Sets by name

The sets of characters that patterns name: general categories and groups of them, binary properties,
scripts, and the values of a few other properties. Names are compared without regard to case, spaces,
underscores and hyphens, and a leading `is` does not count.
-/

namespace Flowchart

namespace Pattern

namespace Named

open Unicode (Age Category GraphemeBreak Property Script SentenceBreak WordBreak)

/-- The characters of a name that count. -/
def keep (name : List Char) : List Char :=
  (name.filter fun c => c.toNat < 128 && c != ' ' && c != '_' && c != '-').map Char.toLower

/-- A name as it is compared. Without its leading `is`, `isc` would become `c`; it stays. -/
def normal (name : List Char) : List Char :=
  match name with
  | a :: b :: rest =>
    if a.toLower = 'i' ∧ b.toLower = 's' then
      let kept := keep rest
      if kept = ['c'] then ['i', 's', 'c'] else kept
    else keep name
  | _ => keep name

/-- One of some names is the one that is looked for. -/
def isCalled (wanted : List Char) (names : List String) : Bool :=
  names.any fun name => normal name.toList == wanted

/-- The first of some things that has a name. -/
def find? {α : Type} (wanted : List Char) (named : List (α × List String)) : Option α :=
  (named.find? fun x => isCalled wanted x.2).map (·.1)

/-- A general category or a group of them. -/
def category? (name : List Char) : Option CharSet :=
  if name = "any".toList then some .full
  else if name = "ascii".toList then some (.range 0 127)
  else if name = "assigned".toList then some Category.unassigned.set.complement
  else
    match find? name (Category.groups.map fun g => (g.2, g.1)) with
    | some cs => some (Category.sets cs)
    | none =>
      (find? name (Category.named.map fun c => (c.1, [c.2.1, c.2.2]))).map (·.set)

/-- A binary property. The short names of three properties that have values are those of categories,
too, and name these. -/
def property? (name : List Char) : Option CharSet :=
  (find? name Property.named).map (·.set)

/-- A script. -/
def script? (name : List Char) : Option Script :=
  find? name (Script.all.map fun s => (s, s.code :: s.names))

/-- The set of a name that stands alone. -/
def alone? (name : List Char) : Option CharSet :=
  let name := normal name
  property? name <|> category? name <|> (script? name).map (·.set)

/-- The properties with values that can be asked for. -/
def valued : List ((List Char → Option CharSet) × List String) :=
  [(category?, ["General_Category", "gc"]),
   (fun v => (script? v).map (·.set), ["Script", "sc"]),
   (fun v => (script? v).map (·.users), ["Script_Extensions", "scx"]),
   (fun v => (find? v (Age.all.map fun a => (a, a.names))).map (·.set), ["Age"]),
   (fun v => (find? v GraphemeBreak.named).map (·.set), ["Grapheme_Cluster_Break", "GCB"]),
   (fun v => (find? v WordBreak.named).map (·.set), ["Word_Break", "WB"]),
   (fun v => (find? v SentenceBreak.named).map (·.set), ["Sentence_Break", "SB"])]

/-- The set of a property with a value. -/
def valued? (property value : List Char) : Option CharSet :=
  (find? (normal property) valued).bind fun set? => set? (normal value)

end Named

end Pattern

end Flowchart
