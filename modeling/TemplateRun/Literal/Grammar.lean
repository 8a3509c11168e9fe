/-
# `Grammar` — the notation of literals

The rules of the notation, in which literals are written among much else.  Square brackets cannot
occur within a tag, so nothing that is written with them is here.
-/
import TemplateRun.Literal.Rule

namespace TemplateRun.Literal

open Rule Item Way

/-! ## Forms -/

/-- The form of a row of items that a comma makes a tuple. -/
def tupleOf (forms : List Form) : Form :=
  .tuple (forms.headD .absent :: (forms.getD 1 .absent).toList)

def combine (forms : List Form) : Form :=
  match forms with
  | [left, .part (.symbol sign), right] => .combined sign left right
  | forms => .operation forms

/-- An operation in front of an operand. -/
def signedOf (forms : List Form) : Form :=
  match forms with
  | [.part (.symbol sign), operand] => .signed sign operand
  | forms => .operation forms

def joined (forms : List Form) : Form :=
  .series ((forms.headD .absent).toList ++ (forms.tail.flatMap Form.toList))

def callOf (callee : Form) (arguments : Form) : Form := .call callee arguments.toList

/-- How many arguments are no keywords. -/
def positionals (arguments : Form) : Nat :=
  (arguments.toList.filter fun
    | .keyword | .spread => false
    | _ => true).length

/-- Whether there is an argument behind two stars. -/
def hasSpread (arguments : Form) : Bool :=
  arguments.toList.any fun
    | .spread => true
    | _ => false

/-- A comparison, from its first operand and what it is compared to. -/
def comparisonOf (forms : List Form) : Form :=
  match (forms.getD 1 .absent).toList with
  | .series (.part (.reserved "in") :: _) :: _ => .comparison true (forms.headD .absent)
  | _ => .comparison false (forms.headD .absent)

/-- Words that once were called without brackets. -/
def bareCallWords : List String := ["print", "exec"]

def isBareCallWord : Form → Bool
  | .name word => word ∈ bareCallWords
  | _ => false

/-- The name of a kind of the first form. -/
def kindOf (forms : List Form) : String := (forms.headD .absent).kindName

/-! ## Rows of ways -/

/-- One way that reads a single rule. -/
def only (r : Rule) : Way := .pass [.of r]

/-- Ways to read an operation whose left operand has been read. -/
def operationsOn (operators : List String) (right : Rule) : List Way :=
  operators.map fun s => .make [.sign s, .of right] combine

def behindComma (r : Rule) : Way := .second [.sign ",", .of r]

/-! ## The rules -/

/-- The ways to read a rule; `concatenate` makes one form of texts side by side. -/
def waysOf (concatenate : List Form → Except Fault Form) : Rule → Ways
  /- Expressions, operations and operands. -/
  | source => .first [.pass [.of expressions, .of newlines, .one (.token .finish)]]
  | newlines => .repeated false [.pass [.one (.token .newline)]]
  | field => .first [only starExpressions]
  | expressions => .first
    [.make [.of expression, .of moreExpressions, .perhapsSign ","] tupleOf,
     .make [.of expression, .sign ","] fun forms => .tuple (forms.take 1),
     only expression]
  | moreExpressions => .repeated true [only moreExpression]
  | moreExpression => .first [behindComma expression]
  | expression => .first
    [.refusal badExpression, .refusal bareCall,
     .make [.of disjunction, .word "if", .of disjunction, .word "else", .of expression]
       .conditional,
     only disjunction, only lambda]
  | plainExpression => .first
    [.make [.of disjunction, .word "if", .of disjunction, .word "else", .of expression]
       .conditional,
     only disjunction, only lambda]
  | yielding => .first
    [.make [.word "yield", .word "from", .of expression] fun _ => .yielded,
     .make [.word "yield", .perhapsOf starExpressions] fun _ => .yielded]
  | starExpressions => .first
    [.make [.of starExpression, .of moreStarExpressions, .perhapsSign ","] tupleOf,
     .make [.of starExpression, .sign ","] fun forms => .tuple (forms.take 1),
     only starExpression]
  | moreStarExpressions => .repeated true [only moreStarExpression]
  | moreStarExpression => .first [behindComma starExpression]
  | starExpression => .first
    [.make [.sign "*", .of union] fun forms => .starred (forms.getD 1 .absent), only expression]
  | members => .first [.pass [.of memberSeries, .perhapsSign ","]]
  | memberSeries => .separated (.rule member)
  | member => .first
    [.make [.sign "*", .of union] fun forms => .starred (forms.getD 1 .absent),
     only namedExpression]
  | naming => .first [.make [.name, .sign ":=", .commit, .of expression] fun _ => .named]
  | namedExpression => .first
    [only naming, .refusal badNaming,
     .pass [.of expression, .notAhead (.token (.symbol ":="))]]
  | disjunction => .first
    [.make [.of conjunction, .of moreConjunctions] .operation, only conjunction]
  | moreConjunctions => .repeated true [only moreConjunction]
  | moreConjunction => .first [.second [.word "or", .of conjunction]]
  | conjunction => .first
    [.make [.of inversion, .of moreInversions] .operation, only inversion]
  | moreInversions => .repeated true [only moreInversion]
  | moreInversion => .first [.second [.word "and", .of inversion]]
  | inversion => .first
    [.make [.word "not", .of inversion] .operation, only comparison]
  | comparison => .first
    [.make [.of union, .of moreComparisons] comparisonOf, only union]
  | moreComparisons => .repeated true [only moreComparison]
  | moreComparison => .first <|
    (["==", "!=", "<=", "<", ">=", ">"].map fun s => .make [.sign s, .of union] .series) ++
    [.make [.word "not", .word "in", .of union] .series, .make [.word "in", .of union] .series,
     .make [.word "is", .word "not", .of union] .series, .make [.word "is", .of union] .series]
  | union => .growing [only exclusion] (operationsOn ["|"] exclusion)
  | exclusion => .growing [only intersection] (operationsOn ["^"] intersection)
  | intersection => .growing [only shift] (operationsOn ["&"] shift)
  | shift => .growing [only sum] (operationsOn ["<<", ">>"] sum)
  | sum => .growing [only term] (operationsOn ["+", "-"] term)
  | term => .growing [only factor] (operationsOn ["*", "/", "//", "%", "@"] factor)
  | factor => .first <|
    (["+", "-", "~"].map fun s => .make [.sign s, .of factor] signedOf) ++ [only power]
  | power => .first
    [.make [.of awaited, .sign "**", .of factor] .operation, only awaited]
  | awaited => .first
    [.make [.word "await", .of primary] fun _ => .awaited, only primary]
  | primary => .growing [only atom]
    [.make [.sign ".", .name] .member,
     .make [.of generator] fun forms => .call (forms.headD .absent) (forms.tail.take 1),
     .make [.sign "(", .perhapsOf arguments, .sign ")"] fun forms =>
       callOf (forms.headD .absent) (forms.getD 2 .absent)]
  | atom => .first
    [.pass [.name],
     .make [.word "True"] fun _ => .constant "True",
     .make [.word "False"] fun _ => .constant "False",
     .make [.word "None"] fun _ => .constant "None",
     .pass [.ahead (.token .text), .of texts],
     .pass [.one (.token .number)],
     .pass [.ahead (.token (.symbol "(")), .of inBrackets],
     .pass [.ahead (.token (.symbol "\x7b")), .of inBraces],
     .make [.sign "..."] fun _ => .constant "..."]
  | inBrackets => .first [only tuple, only group, only generator]
  | inBraces => .first [only dict, only .set, only dictComprehension, only setComprehension]
  | group => .first
    [.second [.sign "(", .of groupContent, .sign ")"], .refusal badGroup]
  | groupContent => .first [only yielding, only namedExpression]
  | textSeries => .repeated true [.pass [.one (.token .text)]]
  | tuple => .first
    [.make [.sign "(", .perhapsOf tupleContent, .sign ")"] fun forms =>
      .tuple (forms.getD 1 .absent).toList]
  | tupleContent => .first
    [.make [.of Rule.member, .sign ",", .perhapsOf members] fun forms =>
      .series (forms.headD .absent :: (forms.getD 2 .absent).toList)]
  | .set => .first
    [.make [.sign "\x7b", .of members, .sign "\x7d"] fun forms =>
      .set (forms.getD 1 .absent).toList]
  | dict => .first
    [.make [.sign "\x7b", .perhapsOf entries, .sign "\x7d"] fun forms =>
       .dict (forms.getD 1 .absent).toList,
     .make [.sign "\x7b", .of badEntries, .sign "\x7d"] fun _ => .absent]
  | entries => .first [.pass [.of entrySeries, .perhapsSign ","]]
  | entrySeries => .separated (.rule entry)
  | entry => .first [.make [.sign "**", .of union] fun _ => .spread, only keyedEntry]
  | keyedEntry => .first
    [.make [.of expression, .sign ":", .of expression] fun forms =>
      .entry (forms.headD .absent) (forms.getD 2 .absent)]
  | texts => .first
    [⟨[.of textSeries], false, fun _ forms =>
      match concatenate (forms.headD .absent).toList with
      | .ok form => .form form
      | .error fault => .fault fault⟩]
  /- Comprehensions, calls and targets. -/
  | clauses => .first [only clauseSeries]
  | clauseSeries => .repeated true [only clause]
  | clause => .first
    [.make [.word "async", .word "for", .of targets, .word "in", .commit, .of disjunction,
       .of conditions] .series,
     .make [.word "for", .of targets, .word "in", .commit, .of disjunction, .of conditions] .series,
     .refusal badTarget]
  | conditions => .repeated false [only condition]
  | condition => .first [.second [.word "if", .of disjunction]]
  | generator => .first
    [.make [.sign "(", .of generatorItem, .of clauses, .sign ")"] fun _ => .generator,
     .refusal badComprehension]
  | generatorItem => .first
    [only naming, .pass [.of expression, .notAhead (.token (.symbol ":="))]]
  | setComprehension => .first
    [.make [.sign "\x7b", .of namedExpression, .of clauses, .sign "\x7d"]
       fun _ => .setComprehension,
     .refusal badComprehension]
  | dictComprehension => .first
    [.make [.sign "\x7b", .of keyedEntry, .of clauses, .sign "\x7d"] fun _ => .dictComprehension,
     .refusal badDictComprehension]
  | arguments => .first
    [.pass [.of argumentList, .perhapsSign ",", .ahead (.token (.symbol ")"))],
     .refusal badArguments]
  | argumentList => .first
    [.make [.of argumentSeries, .perhapsOf keywordTail] joined, only keywords]
  | argumentSeries => .separated (.rule argument)
  | argument => .first
    [only starred, .pass [.of plainArgument, .notAhead (.token (.symbol "="))]]
  | plainArgument => .first
    [only naming, .pass [.of expression, .notAhead (.token (.symbol ":="))]]
  | keywordTail => .first [behindComma keywords]
  | keywords => .first
    [.make [.of starSeries, .sign ",", .of doubleStarSeries] joined,
     only starSeries, only doubleStarSeries]
  | starSeries => .separated (.rule keywordOrStar)
  | doubleStarSeries => .separated (.rule keywordOrDoubleStar)
  | starred => .first
    [.make [.sign "*", .of expression] fun forms => .starred (forms.getD 1 .absent)]
  | keywordOrStar => .first
    [.refusal badKeyword,
     .make [.name, .sign "=", .of expression] fun _ => .keyword, only starred]
  | keywordOrDoubleStar => .first
    [.refusal badKeyword,
     .make [.name, .sign "=", .of expression] fun _ => .keyword,
     .make [.sign "**", .of expression] fun _ => .spread]
  | targets => .first
    [.pass [.of target, .notAhead (.token (.symbol ","))],
     .make [.of target, .of moreTargets, .perhapsSign ","] .series]
  | moreTargets => .repeated false [only moreTarget]
  | moreTarget => .first [behindComma target]
  | tupleTargets => .first
    [.make [.of target, .of someTargets, .perhapsSign ","] .series,
     .make [.of target, .sign ","] .series]
  | someTargets => .repeated true [only moreTarget]
  | target => .first [.second [.sign "*", .of starredTarget], only namedTarget]
  | starredTarget => .first [.pass [.notAhead (.token (.symbol "*")), .of target]]
  | namedTarget => .first
    [.make [.of primaryTarget, .sign ".", .name, .notAhead (.rule goesOn)] .member,
     only atomTarget]
  | atomTarget => .first
    [.pass [.name], .second [.sign "(", .of namedTarget, .sign ")"],
     .make [.sign "(", .perhapsOf tupleTargets, .sign ")"] .series]
  | primaryTarget => .growing [.pass [.of atom, .ahead (.rule goesOn)]]
    [.make [.sign ".", .name, .ahead (.rule goesOn)] .member,
     .make [.of generator, .ahead (.rule goesOn)] .series,
     .make [.sign "(", .perhapsOf arguments, .sign ")", .ahead (.rule goesOn)] .series]
  | goesOn => .first [.pass [.sign "("], .pass [.sign "."]]
  /- Lambdas and their parameters. -/
  | lambda => .first
    [.make [.word "lambda", .perhapsOf parameters, .sign ":", .of expression] .lambda]
  | parameters => .first [.refusal badParameters, only parameterList]
  | parameterList => .first
    [.make [.of bareSlash, .of bareParameters, .of presetParameters, .perhapsOf starParameters]
       .series,
     .make [.of presetSlash, .of presetParameters, .perhapsOf starParameters] .series,
     .make [.of someBareParameters, .of presetParameters, .perhapsOf starParameters] .series,
     .make [.of somePresetParameters, .perhapsOf starParameters] .series,
     only starParameters]
  | defaultValue => .first [.second [.sign "=", .of expression], .refusal badDefault]
  | parameter => .first [.pass [.name]]
  | bareParameter => .first
    [.pass [.of parameter, .sign ","], .pass [.of parameter, .ahead (.token (.symbol ":"))]]
  | bareParameters => .repeated false [only bareParameter]
  | someBareParameters => .repeated true [only bareParameter]
  | presetParameter => .first
    [.pass [.of parameter, .of defaultValue, .sign ","],
     .pass [.of parameter, .of defaultValue, .ahead (.token (.symbol ":"))]]
  | presetParameters => .repeated false [only presetParameter]
  | somePresetParameters => .repeated true [only presetParameter]
  | anyParameter => .first
    [.pass [.of parameter, .perhapsOf defaultValue, .sign ","],
     .pass [.of parameter, .perhapsOf defaultValue, .ahead (.token (.symbol ":"))]]
  | anyParameters => .repeated false [only anyParameter]
  | someAnyParameters => .repeated true [only anyParameter]
  | bareSlash => .first
    [.pass [.of someBareParameters, .sign "/", .sign ","],
     .pass [.of someBareParameters, .sign "/", .ahead (.token (.symbol ":"))]]
  | presetSlash => .first
    [.pass [.of bareParameters, .of somePresetParameters, .sign "/", .sign ","],
     .pass [.of bareParameters, .of somePresetParameters, .sign "/",
       .ahead (.token (.symbol ":"))]]
  | anySlash => .first [only bareSlash, only presetSlash]
  | starParameters => .first
    [.refusal badStar,
     .pass [.sign "*", .of bareParameter, .of anyParameters, .perhapsOf doubleStarParameter],
     .pass [.sign "*", .sign ",", .of someAnyParameters, .perhapsOf doubleStarParameter],
     only doubleStarParameter]
  | doubleStarParameter => .first
    [.refusal badDoubleStar, .pass [.sign "**", .of bareParameter]]
  | bareStarNext => .first [.pass [.sign ","], only bareParameter]
  | badParameters => .first
    [.refuse [.sign "/", .sign ","] fun _ => .parameter .slashFirst,
     .refuse [.of anySlash, .of anyParameters, .sign "/"] fun _ => .parameter .slashTwice,
     .refuse [.perhapsOf bareSlash, .of bareParameters, .of presetBefore, .of bareParameter]
       fun _ => .parameter .defaultMissing,
     .refuse [.of bareParameters, .sign "(", .of parameterNames, .perhapsSign ",", .sign ")"]
       fun _ => .parameter .inBrackets,
     .refuse [.perhapsOf anySlash, .of anyParameters, .sign "*", .of bareStarNext,
       .of anyParameters, .sign "/"] fun _ => .parameter .slashBehindStar,
     .refuse [.of someAnyParameters, .sign "/", .sign "*"] fun _ => .parameter .commaMissing]
  | presetBefore => .first [only presetSlash, only somePresetParameters]
  | parameterNames => .separated (.rule parameter)
  | badStar => .first
    [.refuse [.sign "*", .of badStarEnd] fun _ => .parameter .bareStar,
     .refuse [.sign "*", .of parameter, .sign "="] fun _ => .parameter .starDefault,
     .refuse [.sign "*", .of bareStarNext, .of anyParameters, .sign "*", .of bareStarNext]
       fun _ => .parameter .starTwice]
  | badStarEnd => .first [.pass [.sign ":"], .pass [.sign ",", .of badStarComma]]
  | badStarComma => .first [.pass [.sign ":"], .pass [.sign "**"]]
  | badDoubleStar => .first
    [.refuse [.sign "**", .of parameter, .sign "="] fun _ => .parameter .doubleStarDefault,
     .refuse [.sign "**", .of parameter, .sign ",", .of parameter]
       fun _ => .parameter .behindDoubleStar,
     .refuse [.sign "**", .of parameter, .sign ",", .of parameterMark]
       fun _ => .parameter .behindDoubleStar]
  | parameterMark => .first [.pass [.sign "*"], .pass [.sign "**"], .pass [.sign "/"]]
  | badDefault => .first
    [.refuse [.sign "=", .ahead (.rule argumentEnd)] fun _ => .parameter .valueMissing]
  /- What is wrong. -/
  | badExpression => .first
    [⟨[.notAhead (.rule looseStart), .of disjunction, .of plainExpression], false,
       fun depth forms =>
        if isBareCallWord (forms.headD .absent) || depth = 0 then .nothing
        else .fault (.illWritten (.form .missingComma))⟩,
     .refuse [.of disjunction, .word "if", .of disjunction, .notAhead (.rule elseOrColon)]
       fun _ => .missingElse]
  | bareCall => .first
    [⟨[.name, .notAhead (.token (.symbol "(")), .of starExpressions], false, fun _ forms =>
      match forms.headD .absent with
      | .name word =>
        if word ∈ bareCallWords then .fault (.illWritten (.form (.bareCall word))) else .nothing
      | _ => .nothing⟩]
  | badNaming => .first
    [.refuse [.of expression, .sign ":=", .of expression] fun forms => .namesOther (kindOf forms),
     .refuse [.name, .sign "=", .of union, .notAhead (.rule assigning)] fun _ => .assignment,
     .refuse [.notAhead (.rule unassignable), .of union, .sign "=", .of union,
       .notAhead (.rule assigning)] fun forms => .assignmentHere (kindOf forms)]
  | badComprehension => .first
    [.refuse [.of openingMark, .of starred, .of clauses] fun _ => .starInComprehension,
     .refuse [.sign "\x7b", .of Rule.member, .sign ",", .of members, .of clauses]
       fun _ => .bareTarget,
     .refuse [.sign "\x7b", .of Rule.member, .sign ",", .of clauses] fun _ => .bareTarget]
  | badDictComprehension => .first
    [.refuse [.sign "\x7b", .sign "**", .of union, .of clauses, .sign "\x7d"]
      fun _ => .doubleStarInComprehension]
  | badGroup => .first
    [.refuse [.sign "(", .of starred, .sign ")"] fun _ => .starInBrackets,
     .refuse [.sign "(", .sign "**", .of expression, .sign ")"] fun _ => .doubleStarInBrackets]
  | badEntries => .first
    [.make [.of entrySeries, .sign ",", .of badEntry] fun _ => .absent,
     .refuse [.of expression, .sign ":", .sign "*", .of union] fun _ => .starValue,
     .refuse [.of expression, .sign ":", .ahead (.rule entryEnd)] fun _ => .missingValue]
  | badEntry => .first
    [.refuse [.of expression, .notAhead (.token (.symbol ":"))] fun _ => .missingColon,
     .refuse [.of expression, .sign ":", .sign "*", .of union] fun _ => .starValue,
     .refuse [.of expression, .sign ":", .ahead (.rule entryEnd)] fun _ => .missingValue]
  | badArguments => .first
    [.refuse [.of argumentList, .sign ",", .sign "*"] fun _ => .starBehindKeyword,
     .refuse [.of expression, .of clauses, .sign ",", .perhapsOf restOfArguments]
       fun _ => .bareGenerator,
     .refuse [.name, .sign "=", .of expression, .of clauses] fun _ => .assignment,
     ⟨[.of argumentList, .of clauses], false, fun _ forms =>
       if positionals (forms.headD .absent) ≤ 1 then .nothing
       else .fault (.illWritten (.form .bareGenerator))⟩,
     .refuse [.of argumentList, .sign ",", .of expression, .of clauses] fun _ => .bareGenerator,
     .refuse [.of argumentList, .sign ",", .of argumentList] fun forms =>
       if hasSpread (forms.headD .absent) then .positionalBehindUnpacking
       else .positionalBehindKeyword]
  | badKeyword => .first
    [.refuse [.of constantWord, .sign "="] fun forms => .assignmentTo (kindOf forms),
     .refuse [.name, .sign "=", .of expression, .of clauses] fun _ => .assignment,
     .refuse [.notAhead (.rule keywordStart), .of expression, .sign "="]
       fun _ => .keywordExpression]
  | badTarget => .first
    [⟨[.perhaps (.token (.reserved "async")), .word "for", .of starExpressions], false,
      fun _ forms =>
        match (forms.getD 2 .absent).badTarget? with
        | some form => .fault (.illWritten (.form (.assignmentTo form.kindName)))
        | none => .nothing⟩]
  | looseStart => .first
    [.pass [.name, .one (.token .text)], .pass [.one (.token .looseWord)]]
  | elseOrColon => .first [.pass [.word "else"], .pass [.sign ":"]]
  | assigning => .first [.pass [.sign "="], .pass [.sign ":="]]
  | unassignable => .first
    [only tuple, only generator, .pass [.word "True"], .pass [.word "None"], .pass [.word "False"]]
  | openingMark => .first [.pass [.sign "("], .pass [.sign "\x7b"]]
  | entryEnd => .first [.pass [.sign "\x7d"], .pass [.sign ","]]
  | argumentEnd => .first [.pass [.sign ")"], .pass [.sign ","]]
  | constantWord => .first
    [.make [.word "True"] fun _ => .constant "True",
     .make [.word "False"] fun _ => .constant "False",
     .make [.word "None"] fun _ => .constant "None"]
  | keywordStart => .first [.pass [.name, .sign "="]]
  | restOfArguments => .first
    [only argumentList, .make [.of expression, .of clauses] .series]

/-- The rules whose readings are remembered. -/
def isRemembered : Rule → Bool
  | expression | starExpression | disjunction | conjunction | inversion | factor | awaited
  | texts | arguments | target | namedTarget | badNaming
  | union | exclusion | intersection | shift | sum | term | primary | primaryTarget => true
  | _ => false

end TemplateRun.Literal
