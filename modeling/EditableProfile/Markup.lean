import EditableProfile.Editor

/-!
Markup as a tree, and the one place where a tree becomes text. Text and the values of attributes are
escaped there, so that what a user has typed never ends a tag or an attribute. Elements may carry a
handler, which says what an event on them stands for; handlers are not written.
-/

set_option autoImplicit false

namespace EditableProfile.Markup

inductive Handler where
  | click (action : Action)
  | typing (field : Field)
deriving DecidableEq, Repr

structure Tag where
  name : String
  attributes : List (String × String)
  handler : Option Handler
deriving DecidableEq, Repr

inductive Node where
  | text (content : String)
  | void (tag : Tag)
  | element (tag : Tag) (children : List Node)

def escape (c : Char) : List Char :=
  match c with
  | '"' => "&#34;".toList
  | '&' => "&#38;".toList
  | '\'' => "&#39;".toList
  | '<' => "&#60;".toList
  | '>' => "&#62;".toList
  | c => [c]

def escaped (text : String) : List Char := text.toList.flatMap escape

def attributeText (name value : String) : List Char :=
  ' ' :: (name.toList ++ '=' :: '"' :: (escaped value ++ ['"']))

def Tag.inner (tag : Tag) : List Char :=
  tag.name.toList ++ tag.attributes.flatMap fun pair => attributeText pair.1 pair.2

namespace Node

mutual

def write : Node → List Char
  | .text content => escaped content
  | .void tag => '<' :: (tag.inner ++ ['/', '>'])
  | .element tag children =>
      '<' :: (tag.inner ++ '>' :: (writeAll children ++ '<' :: '/' :: (tag.name.toList ++ ['>'])))

def writeAll : List Node → List Char
  | [] => []
  | node :: rest => node.write ++ writeAll rest

end

def html (node : Node) : String := String.ofList node.write

mutual

def content : Node → String
  | .text content => content
  | .void _ => ""
  | .element _ children => contentAll children

def contentAll : List Node → String
  | [] => ""
  | node :: rest => node.content ++ contentAll rest

end

mutual

def named (name : String) : Node → List (Tag × String)
  | .text _ => []
  | .void tag => if tag.name = name then [(tag, "")] else []
  | .element tag children =>
      let inside := namedAll name children
      if tag.name = name then (tag, contentAll children) :: inside else inside

def namedAll (name : String) : List Node → List (Tag × String)
  | [] => []
  | node :: rest => node.named name ++ namedAll name rest

end

end Node

end EditableProfile.Markup
