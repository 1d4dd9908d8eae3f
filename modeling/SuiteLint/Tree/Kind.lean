/-!
# Node kinds

A parser labels every node with a string of its grammar, and releases of the grammar have spelled
some labels in more than one way.  `Kind` is the fixed vocabulary that the checks are written in:
every known spelling of a construct is read as one kind, any other string as `unknown`.
-/

namespace SuiteLint.Tree

/-! ### The vocabulary -/

/-- **Kind** of a syntax node, independent of the grammar release that produced it. -/
inductive Kind where
  | program | expressionStatement | lexicalDeclaration | variableDeclaration | variableDeclarator
  | functionDeclaration | classDeclaration | classExpression | classBody | classHeritage
  | methodDefinition | methodSignature | abstractMethodSignature | publicFieldDefinition
  | indexSignature | formalParameters | requiredParameter | optionalParameter
  | accessibilityModifier | overrideModifier | classStaticBlock | callExpression | newExpression
  | arguments | memberExpression | subscriptExpression | identifier | propertyIdentifier
  | shorthandProperty | thisValue | superValue | numberLiteral | stringLiteral | templateString
  | regexLiteral | trueLiteral | falseLiteral | nullLiteral | undefinedLiteral
  | functionExpression | arrowFunction | generatorFunction | arrayLiteral | objectLiteral | pair
  | spreadElement | typeAssertion | asExpression | satisfiesExpression | nonNullExpression
  | parenthesizedExpression | binaryExpression | unaryExpression | updateExpression
  | assignmentExpression | awaitExpression | statementBlock | comment | errorNode | unknown
  deriving DecidableEq, Repr

/-- The spellings that grammar releases use, each with the kind it stands for. -/
def Kind.spellings : List (String × Kind) :=
  [("program", .program), ("expression_statement", .expressionStatement),
   ("lexical_declaration", .lexicalDeclaration), ("variable_declaration", .variableDeclaration),
   ("variable_declarator", .variableDeclarator), ("function_declaration", .functionDeclaration),
   ("generator_function_declaration", .functionDeclaration),
   ("class_declaration", .classDeclaration), ("abstract_class_declaration", .classDeclaration),
   ("class", .classExpression), ("class_body", .classBody), ("class_heritage", .classHeritage),
   ("method_definition", .methodDefinition), ("method_signature", .methodSignature),
   ("abstract_method_signature", .abstractMethodSignature),
   ("public_field_definition", .publicFieldDefinition),
   ("field_definition", .publicFieldDefinition), ("index_signature", .indexSignature),
   ("formal_parameters", .formalParameters), ("required_parameter", .requiredParameter),
   ("optional_parameter", .optionalParameter),
   ("accessibility_modifier", .accessibilityModifier), ("override_modifier", .overrideModifier),
   ("class_static_block", .classStaticBlock), ("call_expression", .callExpression),
   ("new_expression", .newExpression), ("arguments", .arguments),
   ("member_expression", .memberExpression), ("subscript_expression", .subscriptExpression),
   ("identifier", .identifier), ("property_identifier", .propertyIdentifier),
   ("private_property_identifier", .propertyIdentifier),
   ("shorthand_property_identifier", .shorthandProperty), ("this", .thisValue),
   ("super", .superValue), ("number", .numberLiteral), ("string", .stringLiteral),
   ("template_string", .templateString), ("regex", .regexLiteral), ("true", .trueLiteral),
   ("false", .falseLiteral), ("null", .nullLiteral), ("undefined", .undefinedLiteral),
   ("function", .functionExpression), ("function_expression", .functionExpression),
   ("arrow_function", .arrowFunction), ("generator_function", .generatorFunction),
   ("array", .arrayLiteral), ("object", .objectLiteral), ("pair", .pair),
   ("spread_element", .spreadElement), ("type_assertion", .typeAssertion),
   ("as_expression", .asExpression), ("satisfies_expression", .satisfiesExpression),
   ("non_null_expression", .nonNullExpression),
   ("parenthesized_expression", .parenthesizedExpression),
   ("binary_expression", .binaryExpression), ("unary_expression", .unaryExpression),
   ("update_expression", .updateExpression), ("assignment_expression", .assignmentExpression),
   ("augmented_assignment_expression", .assignmentExpression),
   ("await_expression", .awaitExpression), ("statement_block", .statementBlock),
   ("comment", .comment), ("html_comment", .comment), ("ERROR", .errorNode)]

/-- **Kind of a grammar label**: what the label is listed under, and `unknown` for any other. -/
def Kind.ofLabel (label : String) : Kind :=
  (Kind.spellings.lookup label).getD .unknown

/-- The name by which a kind is shown. -/
def Kind.name : Kind → String
  | .program => "Program"
  | .expressionStatement => "ExpressionStatement"
  | .lexicalDeclaration => "LexicalDeclaration"
  | .variableDeclaration => "VariableDeclaration"
  | .variableDeclarator => "VariableDeclarator"
  | .functionDeclaration => "FunctionDeclaration"
  | .classDeclaration => "ClassDeclaration"
  | .classExpression => "ClassExpression"
  | .classBody => "ClassBody"
  | .classHeritage => "ClassHeritage"
  | .methodDefinition => "MethodDefinition"
  | .methodSignature => "MethodSignature"
  | .abstractMethodSignature => "AbstractMethodSignature"
  | .publicFieldDefinition => "PublicFieldDefinition"
  | .indexSignature => "IndexSignature"
  | .formalParameters => "FormalParameters"
  | .requiredParameter => "RequiredParameter"
  | .optionalParameter => "OptionalParameter"
  | .accessibilityModifier => "AccessibilityModifier"
  | .overrideModifier => "OverrideModifier"
  | .classStaticBlock => "ClassStaticBlock"
  | .callExpression => "CallExpression"
  | .newExpression => "NewExpression"
  | .arguments => "Arguments"
  | .memberExpression => "MemberExpression"
  | .subscriptExpression => "SubscriptExpression"
  | .identifier => "Identifier"
  | .propertyIdentifier => "PropertyIdentifier"
  | .shorthandProperty => "ShorthandProperty"
  | .thisValue => "This"
  | .superValue => "Super"
  | .numberLiteral => "Number"
  | .stringLiteral => "String"
  | .templateString => "TemplateString"
  | .regexLiteral => "Regex"
  | .trueLiteral => "True"
  | .falseLiteral => "False"
  | .nullLiteral => "Null"
  | .undefinedLiteral => "Undefined"
  | .functionExpression => "FunctionExpression"
  | .arrowFunction => "ArrowFunction"
  | .generatorFunction => "GeneratorFunction"
  | .arrayLiteral => "Array"
  | .objectLiteral => "Object"
  | .pair => "Pair"
  | .spreadElement => "SpreadElement"
  | .typeAssertion => "TypeAssertion"
  | .asExpression => "AsExpression"
  | .satisfiesExpression => "SatisfiesExpression"
  | .nonNullExpression => "NonNullExpression"
  | .parenthesizedExpression => "ParenthesizedExpression"
  | .binaryExpression => "BinaryExpression"
  | .unaryExpression => "UnaryExpression"
  | .updateExpression => "UpdateExpression"
  | .assignmentExpression => "AssignmentExpression"
  | .awaitExpression => "AwaitExpression"
  | .statementBlock => "StatementBlock"
  | .comment => "Comment"
  | .errorNode => "Error"
  | .unknown => "Unknown"

/-! ### Classes of kinds -/

/-- A constant written out in the source. -/
def Kind.isLiteral : Kind → Bool
  | .numberLiteral | .stringLiteral | .regexLiteral | .trueLiteral | .falseLiteral | .nullLiteral
  | .undefinedLiteral => true
  | _ => false

/-- A function or closure written as an expression. -/
def Kind.isFunctionLiteral : Kind → Bool
  | .functionExpression | .arrowFunction | .generatorFunction => true
  | _ => false

/-- A class, declared or written as an expression. -/
def Kind.isClass : Kind → Bool
  | .classDeclaration | .classExpression => true
  | _ => false

/-- A declaration that opens a scope of its own. -/
def Kind.isScopeBoundary : Kind → Bool
  | .functionDeclaration | .classDeclaration | .classExpression => true
  | _ => false

/-- An expression that only adds types or parentheses to another one. -/
def Kind.isWrapper : Kind → Bool
  | .typeAssertion | .asExpression | .satisfiesExpression | .nonNullExpression
  | .parenthesizedExpression => true
  | _ => false

/-- A member of a class body. -/
def Kind.isClassMember : Kind → Bool
  | .methodDefinition | .methodSignature | .abstractMethodSignature | .publicFieldDefinition
  | .indexSignature | .classStaticBlock => true
  | _ => false

end SuiteLint.Tree
