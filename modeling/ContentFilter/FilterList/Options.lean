/-!
# How lists are read

A list is written in one of two formats, and of what it holds all rules
may be loaded or only those of one type.
-/

namespace ContentFilter

/-- **The format of a list.** -/
inductive ListFormat where
  /-- One rule per line, of any type; lines of a hosts file are understood
  as well. -/
  | standard
  /-- One entry of a hosts file per line. -/
  | hosts
  deriving DecidableEq, Repr

namespace ListFormat

/-- The name a format is stored under. -/
def name : ListFormat → String
  | standard => "Standard"
  | hosts => "Hosts"

/-- The format stored under a name, if the name is one of them. -/
def ofName? (s : String) : Option ListFormat :=
  [standard, hosts].find? (·.name = s)

/-- A stored name reads back. -/
@[simp] theorem ofName?_name (f : ListFormat) : ofName? f.name = some f := by
  cases f <;> decide

end ListFormat

/-- **The types of rules to load.** -/
inductive RuleTypes where
  /-- All rules. -/
  | all
  /-- Network rules only. -/
  | networkOnly
  /-- Cosmetic rules only. -/
  | cosmeticOnly
  deriving DecidableEq, Repr

namespace RuleTypes

/-- The name a choice of types is stored under. -/
def name : RuleTypes → String
  | all => "All"
  | networkOnly => "NetworkOnly"
  | cosmeticOnly => "CosmeticOnly"

/-- The choice stored under a name, if the name is one of them. -/
def ofName? (s : String) : Option RuleTypes :=
  [all, networkOnly, cosmeticOnly].find? (·.name = s)

/-- A stored name reads back. -/
@[simp] theorem ofName?_name (t : RuleTypes) : ofName? t.name = some t := by
  cases t <;> decide

/-- Whether network rules are loaded. -/
def loadsNetwork (t : RuleTypes) : Bool :=
  t ≠ cosmeticOnly

/-- Whether cosmetic rules are loaded. -/
def loadsCosmetic (t : RuleTypes) : Bool :=
  t ≠ networkOnly

end RuleTypes

/-- **How a list is read.** -/
structure ParseOptions where
  /-- The format of the list. -/
  format : ListFormat := .standard
  /-- The types of rules to load. -/
  ruleTypes : RuleTypes := .all
  deriving DecidableEq, Repr

end ContentFilter
