import ImportOrder.Source.Dialect
import ImportOrder.Source.Rule

/-! The grammar of source files: statements, expressions, types and markup. It tells where
statements end and what is broken, and it lets every word that is not reserved be a name. -/

namespace ImportOrder

/-- The parts of a source that have a rule. -/
inductive Symbol
  | statement | block | declaration | importStatement | exportStatement | bindings | function
  | classLike | classBody | member | decorator | enumeration | interface | typeAlias | enclosure
  | conditionalJump | loop | choice | trial | jump
  | expression | assignment | arrow | conditional | binary | unary | leftHand | chain | primary
  | arguments | array | object | objectMember | template | propertyName
  | parameters | parameter | pattern | signature
  | element | elementChild | elementAttribute
  | type | unionType | unaryType | arrayType | simpleType | typeArguments | typeParameters
  | objectType | typeMember | resultType
deriving DecidableEq, Repr

namespace Grammar

open Rule

/-- A rule of the grammar. -/
abbrev Part := Rule Symbol

/-- What stands between braces. -/
def braced (part : Part) : Part := seq [.mark "\x7b", part, .mark "\x7d"]

/-- What stands between parentheses. -/
def parenthesized (part : Part) : Part := seq [.mark "(", part, .mark ")"]

/-- What stands between brackets. -/
def bracketed (part : Part) : Part := seq [.mark "[", part, .mark "]"]

/-- The end of a statement: a semicolon, or a line break that ends it. -/
def semicolon : Part := oneOf [.mark ";", .lineEnd]

/-- The end of a statement that needs none. -/
def tail : Part := optional .lineEnd

/-- Any name, a reserved one included. -/
def anyName : Part := .lexeme .name

/-- A name that is not reserved. -/
def freeName : Part := .lexeme .freeName

/-- A type behind a colon. -/
def ofType : Part := seq [.mark ":", .ref .type]

/-- A value behind an equals sign. -/
def initializer : Part := seq [.mark "=", .ref .assignment]

/-- Words in front of a declaration, each followed by something else than the end of a name. -/
def modifiers (texts : List String) : Part :=
  .many (seq [words texts,
    -- A word with one of these behind it is the name of the member itself.
    .unless (marks ["(", "=", ";", ":", "?", "!", "\x7d", ",", "<", ")"])])

/-- The string that names a module. -/
def source : Part := .role "source" (.lexeme .string)

/-- The attributes of an import. -/
def attributes : Part :=
  optional (.node "import_attribute" (seq [words ["with", "assert"], .ref .object]))

/-- What an import binds or an export hands on between braces. -/
def specifiers : Part :=
  let exported := oneOf [anyName, .lexeme .string]
  let renamed := seq [exported, .word "as", exported]
  let kind := words ["type", "typeof"]
  .node "named_imports" (braced (listed (oneOf
    -- The word for a kind can be a name too, so all four forms are tried.
    [seq [kind, renamed], renamed, seq [kind, exported], exported])))

/-- All of a module under one name. -/
def wholeModule : Part :=
  .node "namespace_import" (seq [.mark "*", .word "as", anyName])

/-- What an import binds. -/
def importClause : Part :=
  .node "import_clause" (oneOf
    [wholeModule, specifiers, seq [anyName, optional (seq [.mark ",", oneOf [wholeModule, specifiers]])]])

/-- What an import statement takes in, and from where. -/
def importBody : Part :=
  oneOf
    [seq [importClause, .word "from", source],
     .node "import_require_clause"
       (seq [anyName, .mark "=", .word "require", parenthesized (.lexeme .string)]),
     source]

/-- An import statement. -/
def importStatement : Part :=
  let kind := words ["type", "typeof"]
  oneOf
    [.node "import_statement" (seq
      -- A module can be bound by the name that marks a kind, so the kind is tried first and may be
      -- missing.
      [.word "import", oneOf [seq [kind, importBody, attributes, semicolon],
        seq [importBody, attributes, semicolon]]]),
     .node "import_alias" (seq
      [.word "import", optional (seq [.word "type", .unless (.mark "=")]), anyName, .mark "=",
        separated "." anyName, semicolon])]

/-- An export statement. -/
def exportStatement : Part :=
  let kind := words ["type", "typeof"]
  let origin := seq [.word "from", source, attributes]
  .node "export_statement" (seq
    [.many (.ref .decorator), .word "export", oneOf
      [seq [.word "default", oneOf
        -- A declaration ends by itself; an expression needs an end.
        [seq [.ref .function, tail], seq [.ref .classLike, tail], .ref .interface,
         seq [.ref .expression, semicolon]]],
       seq [optional kind, .mark "*", optional (seq [.word "as", oneOf [anyName, .lexeme .string]]),
        origin, semicolon],
       seq [optional kind, specifiers, optional origin, semicolon],
       .ref .importStatement,
       seq [.mark "=", .ref .expression, semicolon],
       seq [.word "as", .word "namespace", anyName, semicolon],
       .ref .declaration]])

/-- A pattern that takes values apart. -/
def pattern : Part :=
  let withDefault := seq [.ref .pattern, optional initializer]
  let property := oneOf
    [seq [.mark "...", .ref .pattern],
     seq [.ref .propertyName, .mark ":", withDefault],
     seq [freeName, optional initializer]]
  let item := seq [optional (.mark "..."), withDefault]
  oneOf
    -- Items of an array may be left out, properties of an object may not.
    [.node "object_pattern" (braced (listed property)),
     .node "array_pattern" (bracketed (seq [.many (.mark ","), optional (seq
       [item, .many (seq [.mark ",", optional item])])])),
     freeName]

/-- A parameter of a function. -/
def parameter : Part :=
  seq [.many (.ref .decorator),
    .many (seq [words ["public", "private", "protected", "override", "readonly"],
      -- Such a word is a name unless a name follows.
      .ahead (.ref .pattern)]),
    optional (.mark "..."), .ref .pattern, optional (.mark "?"), optional ofType,
    optional initializer]

/-- The parameters of a function with its type parameters and its result. -/
def signature : Part :=
  seq [optional (.ref .typeParameters), .ref .parameters,
    optional (seq [.mark ":", .ref .resultType])]

/-- The body of a function. -/
def body : Part := .node "statement_block" (braced (.many (.ref .statement)))

/-- A function, with or without a name. -/
def function : Part :=
  .node "function" (seq
    [optional (seq [.word "async", .sameLine]), .word "function", optional (.mark "*"),
      optional anyName, .ref .signature, body])

/-- A function without a body. -/
def functionSignature : Part :=
  .node "function_signature" (seq
    [optional (.word "async"), .word "function", optional (.mark "*"), anyName, .ref .signature,
      semicolon])

/-- Variables and their values. -/
def bindings : Part :=
  let item := seq [.ref .pattern, optional (.mark "!"), optional ofType, optional initializer]
  .node "lexical_declaration" (seq
    [words ["const", "let", "var"], separated "," item])

/-- What a class derives from and promises. -/
def heritage : Part :=
  let heirs := separated "," (.ref .arrayType)
  seq
    [optional (seq [.word "extends", .ref .leftHand, optional (.ref .typeArguments)]),
     optional (seq [.word "implements", heirs])]

/-- A class, with or without a name. -/
def classLike : Part :=
  .node "class" (seq
    [.many (.ref .decorator), optional (.word "abstract"), .word "class",
      optional (seq [.unless (words ["extends", "implements"]), anyName]),
      optional (.ref .typeParameters), heritage, .ref .classBody])

/-- A member of a class. -/
def member : Part :=
  let access := ["declare", "public", "private", "protected", "static", "override", "readonly",
    "abstract", "accessor"]
  let kind := seq [modifiers ["async", "get", "set"], optional (.mark "*")]
  let separator := oneOf [.mark ";", .mark ",", .lineEnd]
  .node "class_member" (seq [.many (.ref .decorator), oneOf
    -- Methods come before fields: what reads as a field could be the start of a method.
    [seq [.word "static", body],
     seq [modifiers access, kind, .ref .propertyName, optional (.mark "?"), .ref .signature,
       oneOf [body, separator]],
     seq [modifiers access, optional (marks ["+", "-"]), modifiers access,
       bracketed (seq [anyName, ofType]), ofType, separator],
     seq [modifiers access, .ref .propertyName, optional (marks ["?", "!"]), optional ofType,
       optional initializer, separator],
     .mark ";"]])

/-- A decorator. -/
def decorator : Part :=
  .node "decorator" (seq [.mark "@", oneOf
    [parenthesized (.ref .expression),
     seq [separated "." anyName, optional (.ref .typeArguments), optional (.ref .arguments)]]])

/-- An enumeration. -/
def enumeration : Part :=
  .node "enum_declaration" (seq
    [optional (.word "const"), .word "enum", anyName,
      braced (listed (seq [.ref .propertyName, optional initializer]))])

/-- An interface. -/
def interface : Part :=
  .node "interface_declaration" (seq
    [.word "interface", anyName, optional (.ref .typeParameters),
      optional (seq [.word "extends", separated "," (.ref .arrayType)]), .ref .objectType])

/-- A name for a type. -/
def typeAlias : Part :=
  .node "type_alias_declaration" (seq
    [.word "type", anyName, optional (.ref .typeParameters), .mark "=", .ref .type, semicolon])

/-- A namespace or the declaration of a module. -/
def enclosure : Part :=
  .node "module" (oneOf
    [seq [words ["namespace", "module"], .sameLine,
       oneOf [separated "." freeName, .lexeme .string], oneOf [seq [body, tail], semicolon]],
     seq [.word "global", body, tail]])

/-- A declaration. -/
def declaration : Part :=
  oneOf
    [seq [.ref .function, tail], functionSignature, .ref .enumeration, seq [.ref .classLike, tail],
     seq [.ref .bindings, semicolon], .ref .interface, .ref .typeAlias, .ref .enclosure,
     seq [.word "declare", .sameLine, .ref .declaration]]

/-- A statement under a condition. -/
def conditionalJump : Part :=
  .node "if_statement" (seq
    [.word "if", parenthesized (.ref .expression), .ref .statement,
      optional (seq [.word "else", .ref .statement])])

/-- What stands between the parentheses of a counting or iterating loop. -/
def loopHead : Part :=
  let binding := oneOf
    [seq [words ["const", "let", "var"], .ref .pattern, optional ofType], .ref .leftHand]
  let rest := seq [optional (.ref .expression), .mark ";", optional (.ref .expression)]
  oneOf
    -- The iterating form is tried first: a counting loop could start with the same binding.
    [parenthesized (seq [binding, words ["in", "of"], .ref .expression]),
     parenthesized (seq [oneOf [.ref .bindings, optional (.ref .expression)], .mark ";", rest])]

/-- A loop. -/
def loop : Part :=
  .node "loop_statement" (oneOf
    [seq [.word "for", optional (.word "await"), loopHead, .ref .statement],
     seq [.word "while", parenthesized (.ref .expression), .ref .statement],
     seq [.word "do", .ref .statement, .word "while", parenthesized (.ref .expression),
       optional semicolon],
     seq [.word "with", parenthesized (.ref .expression), .ref .statement]])

/-- A choice among cases. -/
def choice : Part :=
  let case := oneOf
    [seq [.word "case", .ref .expression, .mark ":"], seq [.word "default", .mark ":"]]
  .node "switch_statement" (seq
    [.word "switch", parenthesized (.ref .expression),
      -- The statements of a case go on up to the next one.
      braced (.many (seq [case, .many (seq [.unless case, .ref .statement])]))])

/-- A trial with what follows a failure. -/
def trial : Part :=
  .node "try_statement" (seq
    [.word "try", .ref .block,
      optional (seq [.word "catch",
        optional (parenthesized (seq [.ref .pattern, optional ofType])), .ref .block]),
      optional (seq [.word "finally", .ref .block])])

/-- A statement that leaves its place. -/
def jump : Part :=
  .node "jump_statement" (oneOf
    -- A value on the next line belongs to the next statement.
    [seq [words ["return", "throw"], optional (seq [.sameLine, .ref .expression]), semicolon],
     seq [words ["break", "continue"], optional (seq [.sameLine, freeName]), semicolon],
     seq [.word "debugger", semicolon]])

/-- A statement. -/
def statement : Part :=
  oneOf
    [.ref .block, .node "empty_statement" (.mark ";"), .ref .importStatement, .ref .exportStatement,
     -- A label is tried before an expression, which could start with the same name.
     .node "labeled_statement" (seq [freeName, .mark ":", .ref .statement]),
     .ref .declaration, .ref .conditionalJump, .ref .loop, .ref .choice, .ref .trial, .ref .jump,
     .node "expression_statement" (seq [.ref .expression, semicolon])]

/-- The marks that give a place a value. -/
def assignmentMarks : List String :=
  ["=", "+=", "-=", "*=", "/=", "%=", "**=", "<<=", ">>=", ">>>=", "&=", "|=", "^=", "&&=", "||=", "??="]

/-- The marks between two values. -/
def binaryMarks : List String :=
  ["||", "&&", "??", "|", "^", "&", "==", "!=", "===", "!==", "<", ">", "<=", ">=", "<<", ">>", ">>>",
    "+", "-", "*", "/", "%", "**"]

/-- A function by an arrow. -/
def arrow : Part :=
  let result := oneOf [body, .ref .assignment]
  .node "arrow_function" (oneOf
    [seq [optional (seq [.word "async", .sameLine]), .ref .signature, .mark "=>", result],
     seq [.word "async", .sameLine, freeName, .mark "=>", result],
     seq [freeName, .mark "=>", result]])

/-- A value, or a place that is given one. -/
def assignment : Part :=
  oneOf
    -- An arrow starts like a value in parentheses, so it is tried first.
    [.ref .arrow,
     seq [.word "yield", optional (.mark "*"), .ref .assignment],
     seq [.ref .conditional, optional (seq [marks assignmentMarks, .ref .assignment])]]

/-- One of two values. The colon may be meant where a result type could stand as well. -/
def conditional : Part :=
  seq [.ref .binary, optional (oneOf
    [seq [.mark "?", .ref .assignment, .mark ":", .ref .assignment],
     seq [.mark "?", .ref .conditional, .mark ":", .ref .assignment]])]

/-- Values with marks between them. -/
def binary : Part :=
  seq [.ref .unary, .many (oneOf
    [seq [oneOf [marks binaryMarks, words ["in", "instanceof"]], .ref .unary],
     seq [.sameLine, .word "as", oneOf [.word "const", .ref .type]],
     seq [.sameLine, .word "satisfies", .ref .type]])]

/-- A value with marks in front of it. -/
def unary (dialect : Dialect) : Part :=
  oneOf
    [seq [oneOf [marks ["!", "~", "+", "-", "++", "--"], words ["typeof", "void", "delete"]],
      .ref .unary],
     seq [.word "await", .ref .unary],
     -- Where there is markup, an angle bracket opens an element.
     if dialect == .typed then
       seq [.literal "<", oneOf [.word "const", .ref .type], .literal ">", .ref .unary]
     else .never,
     seq [.ref .leftHand, optional (seq [.sameLine, marks ["++", "--"]])]]

/-- What may follow a value to take a part of it or to call it. -/
def chain : Part :=
  let key := oneOf [anyName, .lexeme .privateName]
  oneOf
    [seq [.mark ".", key],
     seq [.mark "?.", oneOf [key, bracketed (.ref .expression),
       seq [optional (.ref .typeArguments), .ref .arguments], .ref .template]],
     bracketed (.ref .expression),
     .ref .arguments,
     .ref .template,
     -- Type arguments need a call behind them, else the bracket compares.
     seq [.ref .typeArguments, oneOf [.ref .arguments, .ref .template]],
     seq [.sameLine, .mark "!"]]

/-- A value with its parts and calls. -/
def leftHand : Part := seq [.ref .primary, .many (.ref .chain)]

/-- A simple value. -/
def primary (dialect : Dialect) : Part :=
  oneOf
    [seq [.word "new", oneOf [seq [.mark ".", .word "target"], .ref .leftHand]],
     seq [.word "import", oneOf [.ref .arguments, seq [.mark ".", .word "meta"]]],
     .ref .function, .ref .classLike,
     if dialect == .markup then .ref .element else .never,
     freeName, .lexeme .privateName, .lexeme .number, .lexeme .string, .ref .template,
     .lexeme .pattern, .ref .array, .ref .object, parenthesized (.ref .expression)]

/-- The arguments of a call. -/
def arguments : Part :=
  .node "arguments" (parenthesized (listed (seq [optional (.mark "..."), .ref .assignment])))

/-- A list of values. -/
def array : Part :=
  let item := seq [optional (.mark "..."), .ref .assignment]
  .node "array" (bracketed (seq [.many (.mark ","), optional (seq
    [item, .many (seq [.mark ",", optional item])])]))

/-- A member of an object. -/
def objectMember : Part :=
  let kind := seq [modifiers ["async", "get", "set"], optional (.mark "*")]
  oneOf
    [seq [.mark "...", .ref .assignment],
     seq [kind, .ref .propertyName, .ref .signature, body],
     seq [.ref .propertyName, .mark ":", .ref .assignment],
     seq [freeName, optional initializer]]

/-- The name of a member. -/
def propertyName : Part :=
  oneOf
    [anyName, .lexeme .privateName, .lexeme .string, .lexeme .number,
     bracketed (.ref .assignment)]

/-- A text with holes. -/
def template : Part :=
  .node "template_string" (seq
    [.literal "`",
     .many (oneOf [.lexeme .templateText, seq [.exact "$\x7b", .ref .expression, .mark "\x7d"]]),
     .exact "`"])

/-- The name of a markup element. -/
def elementName : Part :=
  seq [.lexeme .markupName, .many (seq [marks [".", ":"], .lexeme .markupName])]

/-- A markup element. -/
def element : Part :=
  let children := .many (.ref .elementChild)
  .node "jsx_element" (seq [.literal "<", oneOf
    [seq [.literal ">", children, .literal "<", .literal "/", .literal ">"],
     seq [elementName, optional (.ref .typeArguments), .many (.ref .elementAttribute), oneOf
       [seq [.literal "/", .literal ">"],
        seq [.literal ">", children, .literal "<", .literal "/", elementName, .literal ">"]]]]])

/-- What stands inside a markup element. -/
def elementChild : Part :=
  let value := braced (optional (oneOf [seq [.mark "...", .ref .assignment], .ref .expression]))
  oneOf [.lexeme .markupText, .ref .element, value]

/-- An attribute of a markup element. -/
def elementAttribute : Part :=
  let value := oneOf
    [.lexeme .markupString, braced (optional (.ref .expression)), .ref .element]
  oneOf
    [braced (seq [.mark "...", .ref .assignment]),
     seq [.lexeme .markupName, optional (seq [.mark ":", .lexeme .markupName]),
       optional (seq [.mark "=", value])]]

/-- A type. -/
def type : Part :=
  let function := seq [optional (.ref .typeParameters), .ref .parameters, .mark "=>", .ref .resultType]
  oneOf
    [function,
     seq [optional (.word "abstract"), .word "new", function],
     seq [.ref .unionType, optional (seq
       [.word "extends", .ref .unionType, .mark "?", .ref .type, .mark ":", .ref .type])]]

/-- Types with marks between them. -/
def unionType : Part :=
  seq [optional (marks ["|", "&"]), .ref .unaryType,
    .many (seq [marks ["|", "&"], .ref .unaryType])]

/-- A type with words in front of it. -/
def unaryType : Part :=
  oneOf
    [seq [words ["keyof", "unique", "readonly"], .ref .unaryType],
     seq [.word "infer", anyName, optional (seq [.word "extends", .ref .unaryType])],
     .ref .arrayType]

/-- A type with brackets behind it. -/
def arrayType : Part :=
  seq [.ref .simpleType, .many (seq [.sameLine, bracketed (optional (.ref .type))])]

/-- A simple type. -/
def simpleType : Part :=
  let item := seq
    [optional (.mark "..."), optional (seq [anyName, optional (.mark "?"), .mark ":"]), .ref .type,
      optional (.mark "?")]
  let path := seq [separated "." anyName, optional (.ref .typeArguments)]
  oneOf
    -- Names come behind the words that could be names too.
    [parenthesized (.ref .type),
     .ref .objectType,
     .node "tuple_type" (bracketed (listed item)),
     seq [.word "typeof", oneOf
       [seq [.word "import", .ref .arguments, .many (seq [.mark ".", anyName])], path]],
     seq [.word "import", .ref .arguments, .many (seq [.mark ".", anyName]),
       optional (.ref .typeArguments)],
     path,
     .lexeme .string, seq [optional (.mark "-"), .lexeme .number], .ref .template]

/-- The arguments of a type. -/
def typeArguments : Part :=
  seq [.literal "<", listed (.ref .type), .literal ">"]

/-- The parameters of a type. -/
def typeParameters : Part :=
  let parameter := seq
    [modifiers ["const", "in", "out"], anyName, optional (seq [.word "extends", .ref .type]),
      optional (seq [.mark "=", .ref .type])]
  seq [.literal "<", separated "," parameter, optional (.mark ","), .literal ">"]

/-- The type of an object. -/
def objectType : Part :=
  let separator := oneOf [marks [";", ","], .lineEnd]
  .node "object_type" (braced (.many (oneOf [seq [.ref .typeMember, separator], marks [";", ","]])))

/-- A member of the type of an object. -/
def typeMember : Part :=
  let access := ["readonly", "get", "set", "static", "public", "private", "protected"]
  let sign := optional (marks ["+", "-"])
  oneOf
    [seq [sign, modifiers access,
       -- A mapped type looks like an index up to its word.
       bracketed (seq [anyName, .word "in", .ref .type, optional (seq [.word "as", .ref .type])]),
       sign, optional (.mark "?"), optional ofType],
     seq [sign, modifiers access, bracketed (seq [anyName, ofType]), optional ofType],
     seq [optional (.word "new"), .ref .signature],
     seq [modifiers access, .ref .propertyName, optional (.mark "?"), .ref .signature],
     seq [modifiers access, .ref .propertyName, optional (.mark "?"), optional ofType]]

/-- The type of a result, or what a result says about a parameter. -/
def resultType : Part :=
  oneOf
    -- The words for predicates are names if nothing follows them on their line.
    [seq [.word "asserts", .sameLine, freeName, optional (seq [.word "is", .ref .type])],
     seq [freeName, .sameLine, .word "is", .ref .type],
     .ref .type]

/-- The rule of each symbol in a dialect. -/
def rules (dialect : Dialect) : Symbol → Part
  | .statement => statement
  | .block => seq [body, tail]
  | .declaration => declaration
  | .importStatement => importStatement
  | .exportStatement => exportStatement
  | .bindings => bindings
  | .function => function
  | .classLike => classLike
  | .classBody => .node "class_body" (braced (.many (.ref .member)))
  | .member => member
  | .decorator => decorator
  | .enumeration => enumeration
  | .interface => interface
  | .typeAlias => typeAlias
  | .enclosure => enclosure
  | .conditionalJump => conditionalJump
  | .loop => loop
  | .choice => choice
  | .trial => trial
  | .jump => jump
  | .expression => separated "," (.ref .assignment)
  | .assignment => assignment
  | .arrow => arrow
  | .conditional => conditional
  | .binary => binary
  | .unary => unary dialect
  | .leftHand => leftHand
  | .chain => chain
  | .primary => primary dialect
  | .arguments => arguments
  | .array => array
  | .object => .node "object" (braced (listed (.ref .objectMember)))
  | .objectMember => objectMember
  | .template => template
  | .propertyName => propertyName
  | .parameters => parenthesized (listed (.ref .parameter))
  | .parameter => parameter
  | .pattern => pattern
  | .signature => signature
  | .element => element
  | .elementChild => elementChild
  | .elementAttribute => elementAttribute
  | .type => type
  | .unionType => unionType
  | .unaryType => unaryType
  | .arrayType => arrayType
  | .simpleType => simpleType
  | .typeArguments => typeArguments
  | .typeParameters => typeParameters
  | .objectType => objectType
  | .typeMember => typeMember
  | .resultType => resultType

end Grammar

end ImportOrder
