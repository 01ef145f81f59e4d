import ReleaseAdvisor.Pattern.Syntax

/-!
Sequences of items and choices between them. Items that all alternatives begin with are read once
before the choice, and a choice between single characters is a class; under folding a class may
accept less than its members one by one.
-/

namespace ReleaseAdvisor.Pattern

def Node.ofList : List Node → Node
  | [] => .empty
  | [node] => node
  | node :: nodes => .seq node (Node.ofList nodes)

def Node.anyOf : List Node → Node
  | [] => .empty
  | [node] => node
  | node :: nodes => .either node (Node.anyOf nodes)

/-- What an item of a sequence is: a place and a repetition cannot be repeated, and a group with
flags of its own is like no other item. -/
inductive Role where
  | plain
  | place
  | repetition
  | sealed
  deriving DecidableEq, Repr

structure Item where
  node : Node
  role : Role := .plain

def Node.ofItems (items : List Item) : Node := .ofList (items.map (·.node))

def Item.alike (a b : Item) : Bool :=
  a.role != .sealed && b.role != .sealed &&
    match a.node, b.node with
    | .one s, .one t => s == t
    | .stand s, .stand t => s == t
    | .again i f, .again j g => i == j && f == g
    | _, _ => false

def Item.members? (item : Item) : Option (List Member) :=
  match item.role, item.node with
  | .plain, .one (.point n _) => some [.point n]
  | .plain, .one (.oneOf members true _) => some members
  | _, _ => none

def commonStart : List Item → List (List Item) → List Item × List (List Item)
  | [], others => ([], [] :: others)
  | item :: rest, others =>
    if others.all fun other => other.head?.any item.alike then
      let (common, left) := commonStart rest (others.map List.tail)
      (item :: common, left)
    else ([], (item :: rest) :: others)

def soleMembers? : List Item → Option (List Member)
  | [item] => item.members?
  | _ => none

def choice (folding : Folding) : List (List Item) → List Item
  | [] => []
  | [items] => items
  | first :: others =>
    let (common, left) := commonStart first others
    match left.mapM soleMembers? with
    | some members => common ++ [⟨.one (.oneOf members.flatten.eraseDups true folding), .plain⟩]
    | none => common ++ [⟨.anyOf (left.map Node.ofItems), .plain⟩]

end ReleaseAdvisor.Pattern
