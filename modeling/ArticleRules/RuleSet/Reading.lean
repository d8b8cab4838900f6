import ArticleRules.Json.Shape
import ArticleRules.RuleSet.Entry

/-
This file reads rule sets from JSON text.
-/

namespace ArticleRules

open Json Json.Reader

/-- The fields of a record that are read so far. -/
structure PropertyFields where
  getter : Option String := none
  selector : Option (Option String) := none
  attributeName : Option (Option String) := none

def PropertyEntry.reader : Reader PropertyEntry :=
  record "struct PropertyConfig"
    [{ name := "type"
       isSet := (·.getter.isSome)
       hasDefault := false
       read := fun fields => return { fields with getter := some (← string) } },
     { name := "selector"
       isSet := (·.selector.isSome)
       hasDefault := true
       read := fun fields => return { fields with selector := some (← optional string) } },
     { name := "attribute"
       isSet := (·.attributeName.isSome)
       hasDefault := true
       read := fun fields => return { fields with attributeName := some (← optional string) } }]
    ({} : PropertyFields)
    fun fields =>
      match fields.getter with
      | none => .error (.missingField "type")
      | some getter => .ok ⟨getter, fields.selector.join, fields.attributeName.join⟩

structure RuleFields where
  ruleClass : Option String := none
  selector : Option (Option String) := none
  context : Option (Option String) := none
  properties : Option (NameMap PropertyEntry) := none

def RuleEntry.reader : Reader RuleEntry :=
  record "struct RuleConfig"
    [{ name := "class"
       isSet := (·.ruleClass.isSome)
       hasDefault := false
       read := fun fields => return { fields with ruleClass := some (← string) } },
     { name := "selector"
       isSet := (·.selector.isSome)
       hasDefault := false
       read := fun fields => return { fields with selector := some (← optional string) } },
     { name := "context"
       isSet := (·.context.isSome)
       hasDefault := true
       read := fun fields => return { fields with context := some (← optional string) } },
     { name := "properties"
       isSet := (·.properties.isSome)
       hasDefault := true
       read := fun fields => return { fields with
         properties := some (← objectOf .empty (fun name entry map => map.insert name entry)
           PropertyEntry.reader) } }]
    ({} : RuleFields)
    fun fields =>
      match fields.ruleClass with
      | none => .error (.missingField "class")
      | some ruleClass =>
        .ok ⟨ruleClass, fields.selector.join, fields.context.join, fields.properties.getD .empty⟩

def RuleSet.reader : Reader RuleSet :=
  record "struct RuleSet"
    [{ name := "rules"
       isSet := Option.isSome
       hasDefault := true
       read := fun _ => some <$> listOf RuleEntry.reader }]
    none
    fun rules => .ok ⟨rules.getD []⟩

/-- Reads a rule set from JSON text. -/
def RuleSet.ofJson (text : String) : Except Error RuleSet :=
  match RuleSet.reader.run? text with
  | .ok rules => .ok rules
  | .error fault => .error (.invalidRuleSet fault)

end ArticleRules
