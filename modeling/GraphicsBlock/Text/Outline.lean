namespace GraphicsBlock.Text

inductive Outline
  | plain (text : String)
  | record (name : String) (fields : List (String × Outline))
  | openRecord (name : String) (fields : List (String × Outline))
  | tuple (name : String) (items : List Outline)
  | list (items : List Outline)

mutual

def Outline.render : Outline → String
  | .plain text => text
  | .record name fields => name ++ " \x7b " ++ ", ".intercalate (renderFields fields) ++ " \x7d"
  | .openRecord name fields =>
    name ++ " \x7b " ++ ", ".intercalate (renderFields fields ++ [".."]) ++ " \x7d"
  | .tuple name items => name ++ "(" ++ ", ".intercalate (renderItems items) ++ ")"
  | .list items => "[" ++ ", ".intercalate (renderItems items) ++ "]"

def Outline.renderFields : List (String × Outline) → List String
  | [] => []
  | (label, value) :: fields => (label ++ ": " ++ value.render) :: renderFields fields

def Outline.renderItems : List Outline → List String
  | [] => []
  | item :: items => item.render :: renderItems items

end

def Outline.nat (n : Nat) : Outline := .plain (toString n)

def Outline.bool (b : Bool) : Outline := .plain (if b then "true" else "false")

example : (Outline.openRecord "Completion" [("unit", .nat 0)]).render =
    "Completion \x7b unit: 0, .. \x7d" := by decide +kernel

end GraphicsBlock.Text
