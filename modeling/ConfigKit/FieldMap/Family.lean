-- SUMMARY: Families of maps under names, and the steps that move fields among them.
import ConfigKit.FieldMap.Basic

/-!
# Families of field maps

Several maps of texts, each under a name, and the steps that move fields among them. A step reads its
source before it writes, so source and target may be the same map. A name without a map reads as the
empty map; the target of a step gets a map if it had none.
-/

namespace ConfigKit

/-- A map from texts to texts. -/
abbrev TextMap := FieldMap String String

/-- Named maps of texts. -/
abbrev MapFamily := FieldMap String TextMap

/-- A step on the maps of a family. -/
inductive MapStep where
  /-- Copies one field. -/
  | copyField (name source target : String)
  /-- Copies all fields. -/
  | overlay (source target : String)
  /-- Stores the fields whose name passes the test as the target. -/
  | filterKeys (source target : String) (test : String → Bool)

namespace MapFamily

/-- The map of a name, empty if there is none. -/
def map (family : MapFamily) (name : String) : TextMap :=
  (FieldMap.get? family name).getD FieldMap.empty

def step (family : MapFamily) : MapStep → MapFamily
  | .copyField name source target =>
    FieldMap.insert family target
      (FieldMap.copyField name (family.map source) (family.map target)).2
  | .overlay source target =>
    FieldMap.insert family target (FieldMap.overlay (family.map target) (family.map source))
  | .filterKeys source target test =>
    FieldMap.insert family target (FieldMap.filterKeys (family.map source) test)

def run (family : MapFamily) (steps : List MapStep) : MapFamily :=
  steps.foldl step family

end MapFamily

end ConfigKit
