import CodeReview.Proofs.Text.Blanks
import CodeReview.Proofs.Text.Runs
import CodeReview.Python.Token

/-!
# Import statements as they are written

An `ImportLine` is a line with one import statement on it and any blanks between its tokens. The
types hold just what the language allows: a name is an ASCII identifier that is not reserved, and
there are blanks wherever two words would run into each other. `ImportLine.text` writes the line and
`ImportStatement.names` are the names that the statement binds.

`ImportStatement.Plain` is about the blanks alone: none stand within a dotted name that matters, and
some stand around the two keywords.
-/

set_option autoImplicit false

namespace CodeReview.Rules

open Text

/-- Blanks between two tokens. -/
structure Blanks where
  chars : List Char
  blank : Blank chars := by decide

/-- An ASCII identifier that is not reserved. -/
structure Name where
  chars : List Char
  start : chars.head?.any isIdentifierStart := by decide
  ascii : chars.all fun c => c.toNat < 128 && isIdentifierRest c := by decide
  not_reserved : String.ofList chars ∉ Python.reserved := by decide

def Name.text (n : Name) : String := String.ofList n.chars

/-- One or more parts with a separator between neighbours and blanks around it. -/
inductive Separated (α : Type)
  | one (x : α)
  | more (x : α) (before after : Blanks) (rest : Separated α)

namespace Separated

variable {α : Type}

def first : Separated α → α
  | one x => x
  | more x _ _ _ => x

def toList : Separated α → List α
  | one x => [x]
  | more x _ _ rest => x :: rest.toList

def text (sep : Char) (chars : α → List Char) : Separated α → List Char
  | one x => chars x
  | more x before after rest =>
    chars x ++ (before.chars ++ sep :: (after.chars ++ rest.text sep chars))

/-- No blanks stand around the separators. -/
def Tight : Separated α → Prop
  | one _ => True
  | more _ before after rest => before.chars = [] ∧ after.chars = [] ∧ rest.Tight

instance decidableTight : (s : Separated α) → Decidable s.Tight
  | one _ => .isTrue trivial
  | more _ before after rest =>
    have := rest.decidableTight
    inferInstanceAs (Decidable (before.chars = [] ∧ after.chars = [] ∧ rest.Tight))

end Separated

/-! ## Items -/

/-- The path of a module. -/
abbrev Dotted := Separated Name

def Dotted.chars (d : Dotted) : List Char := Separated.text '.' Name.chars d

/-- The other name that something is imported under. -/
structure Alias where
  before : Blanks
  after : Blanks
  name : Name
  before_ne : before.chars ≠ [] := by decide
  after_ne : after.chars ≠ [] := by decide

def Alias.chars (a : Alias) : List Char :=
  a.before.chars ++ ("as".toList ++ (a.after.chars ++ a.name.chars))

/-- Something that is imported, perhaps under another name. -/
structure Item (α : Type) where
  subject : α
  alias? : Option Alias

namespace Item

variable {α : Type}

def text (chars : α → List Char) (i : Item α) : List Char :=
  chars i.subject ++ i.alias?.elim [] Alias.chars

/-- The name that the item binds, if `own` is that of its subject. -/
def bound (own : α → Name) (i : Item α) : Name := i.alias?.elim (own i.subject) Alias.name

/-- The name that is read off an item of `import`: with blanks around its points, another name is
missed. -/
def read (i : Item Dotted) : Name :=
  if i.subject.Tight then i.bound Separated.first else i.subject.first

end Item

/-! ## Statements -/

/-- The module that names are imported from: points, a dotted name, or both. -/
inductive Origin
  | point
  | named (name : Dotted)
  | above (after : Blanks) (rest : Origin)

namespace Origin

def chars : Origin → List Char
  | point => ['.']
  | named name => name.chars
  | above after rest => '.' :: (after.chars ++ rest.chars)

def StartsWithName : Origin → Prop
  | named _ => True
  | point | above _ _ => False

def EndsWithName : Origin → Prop
  | point => False
  | named _ => True
  | above _ rest => rest.EndsWithName

/-- No blanks stand around the points. -/
def Tight : Origin → Prop
  | point => True
  | named name => name.Tight
  | above after rest => after.chars = [] ∧ rest.Tight

end Origin

/-- The comma after the last item, with the blanks before it. -/
def commaChars (comma : Option Blanks) : List Char := comma.elim [] fun b => b.chars ++ [',']

/-- What is imported from a module. -/
inductive Members
  | star
  | list (items : Separated (Item Name)) (comma : Option Blanks)
  | group (opening : Blanks) (items : Separated (Item Name)) (comma : Option Blanks)
      (closing : Blanks)

namespace Members

def chars : Members → List Char
  | star => ['*']
  | list items comma => items.text ',' (Item.text Name.chars) ++ commaChars comma
  | group opening items comma closing =>
    '(' :: (opening.chars ++ (items.text ',' (Item.text Name.chars) ++ (commaChars comma ++
      (closing.chars ++ [')']))))

def items : Members → List (Item Name)
  | star => []
  | list items _ | group _ items _ _ => items.toList

def StartsWithName : Members → Prop
  | list _ _ => True
  | star | group _ _ _ _ => False

end Members

/-- `import` and the modules that it imports. -/
structure ModuleImport where
  gap : Blanks
  items : Separated (Item Dotted)
  gap_ne : gap.chars ≠ []

/-- `from` and a module, `import` and what it imports from it. -/
structure MemberImport where
  afterFrom : Blanks
  origin : Origin
  beforeImport : Blanks
  afterImport : Blanks
  members : Members
  afterFrom_ne : origin.StartsWithName → afterFrom.chars ≠ []
  beforeImport_ne : origin.EndsWithName → beforeImport.chars ≠ []
  afterImport_ne : members.StartsWithName → afterImport.chars ≠ []

/-- No blanks stand around the points of the module, and some around `import` and after `from`. -/
structure MemberImport.Plain (m : MemberImport) : Prop where
  afterFrom : m.afterFrom.chars ≠ []
  origin : m.origin.Tight
  beforeImport : m.beforeImport.chars ≠ []
  afterImport : m.afterImport.chars ≠ []

inductive ImportStatement
  | modules (m : ModuleImport)
  | members (m : MemberImport)

namespace ImportStatement

def chars : ImportStatement → List Char
  | modules m => "import".toList ++ (m.gap.chars ++ m.items.text ',' (Item.text Dotted.chars))
  | members m => "from".toList ++ (m.afterFrom.chars ++ (m.origin.chars ++ (m.beforeImport.chars ++
      ("import".toList ++ (m.afterImport.chars ++ m.members.chars)))))

theorem modules_chars (m : ModuleImport) : (modules m).chars =
    "import".toList ++ (m.gap.chars ++ m.items.text ',' (Item.text Dotted.chars)) := rfl

theorem members_chars (m : MemberImport) : (members m).chars =
    "from".toList ++ (m.afterFrom.chars ++ (m.origin.chars ++ (m.beforeImport.chars ++
      ("import".toList ++ (m.afterImport.chars ++ m.members.chars))))) := rfl

/-- The names that a statement binds. -/
def names : ImportStatement → List Name
  | modules m => m.items.toList.map (Item.bound Separated.first)
  | members m => m.members.items.map (Item.bound id)

/-- Blanks are where they hide no name: a module with another name has none around its points, and
a statement with `from` is plain. -/
def Plain : ImportStatement → Prop
  | modules m => ∀ i ∈ m.items.toList, i.alias?.isSome → i.subject.Tight
  | members m => m.Plain

end ImportStatement

/-- A line with an import statement, perhaps with a comment after it. -/
structure ImportLine where
  indent : Blanks
  statement : ImportStatement
  trailing : Blanks
  comment? : Option (List Char)

def ImportLine.text (l : ImportLine) : String :=
  String.ofList (l.indent.chars ++ (l.statement.chars ++ (l.trailing.chars ++
    l.comment?.elim [] ('#' :: ·))))

end CodeReview.Rules
