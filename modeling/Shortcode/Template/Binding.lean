import Shortcode.Template.Tree

/-!
# Names of a body

A body of statements has names of its own.  A name that a body sets outside of choices, and does not
mention before, belongs to the body from its start: the bodies inside it find it missing until it
is set, whatever it stands for outside.  A name that an outer body mentions is that body's.
-/

namespace Shortcode.Template

/-- The mention of a name in a body: the name is used, or set. -/
inductive Mention where
  | use (name : String)
  | set (name : String)

/-- The name that is mentioned. -/
def Mention.name : Mention → String
  | .use name => name
  | .set name => name

mutual

/-- The names that an expression uses, in order. -/
def Expression.names : Expression → List String
  | .constant _ => []
  | .name name => [name]
  | .member subject _ => subject.names
  | .item subject index => subject.names ++ index.names
  | .part start stop step => start.names ++ stop.names ++ step.names
  | .call subject _ arguments => subject.names ++ namesOf arguments
  | .filter _ subject _ _ arguments => subject.names ++ namesOf arguments
  | .test _ subject _ _ arguments => subject.names ++ namesOf arguments
  | .negation subject => subject.names
  | .conjunction left right => left.names ++ right.names
  | .disjunction left right => left.names ++ right.names
  | .comparison first _ others => first.names ++ namesOf others
  | .arithmetic _ left right => left.names ++ right.names
  | .minus subject => subject.names
  | .plus subject => subject.names
  | .concatenation parts => namesOf parts
  | .choice condition yes no => condition.names ++ yes.names ++ no.names
  | .option _ condition yes => condition.names ++ yes.names
  | .list items => namesOf items
  | .row items => namesOf items
  | .map keys contents => namesOf keys ++ namesOf contents

/-- The names that several expressions use, in order. -/
def namesOf : List Expression → List String
  | [] => []
  | first :: rest => first.names ++ namesOf rest

end

mutual

/-- The names that a target mentions. -/
def Target.mentions : Target → List Mention
  | .single _ name => [.set name]
  | .member owner _ => [.use owner]
  | .several targets => mentionsOfTargets targets

/-- The names that several targets mention. -/
def mentionsOfTargets : List Target → List Mention
  | [] => []
  | first :: rest => first.mentions ++ mentionsOfTargets rest

end

mutual

/-- The names that a statement mentions in the body that it stands in.  What a choice sets counts
as used. -/
def Statement.mentions : Statement → List Mention
  | .text _ | .block .. => []
  | .print subject => subject.names.map .use
  | .choose condition yes no =>
    (condition.names ++ (mentionsWithin yes).map Mention.name ++
      (mentionsWithin no).map Mention.name).map .use
  | .loop _ source _ _ _ => source.names.map .use
  | .assign target subject => subject.names.map .use ++ target.mentions
  | .capture target _ _ => target.mentions
  | .bind _ subjects _ => (namesOf subjects).map .use
  | .transform result _ => result.names.map .use
  | .extends _ template => template.names.map .use
  | .reserved _ subjects _ => (namesOf subjects).map .use

/-- The names that several statements mention in the body that they stand in. -/
def mentionsWithin : List Statement → List Mention
  | [] => []
  | first :: rest => first.mentions ++ mentionsWithin rest

end

/-- The names whose first mention sets them, but for those that are known before. -/
def namesSetFirst (known : List String) : List Mention → List String
  | [] => []
  | .use name :: rest => namesSetFirst (name :: known) rest
  | .set name :: rest =>
    if known.contains name then namesSetFirst known rest
    else name :: namesSetFirst (name :: known) rest

/-- The names of a body. -/
structure Names where
  /-- The names that are mentioned in the body or around it. -/
  known : List String
  /-- The names that belong to the body from its start. -/
  own : List String

/-- The names of a body, from those that are known around it. -/
def Names.ofBody (known : List String) (body : List Statement) : Names :=
  let mentions := mentionsWithin body
  ⟨known ++ mentions.map Mention.name, namesSetFirst known mentions⟩

end Shortcode.Template
