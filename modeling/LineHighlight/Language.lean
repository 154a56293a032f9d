import LineHighlight.Json.Typed
import LineHighlight.Error
import LineHighlight.Text.Blank

/-!
The languages with a grammar of their own in the common set.

Each language has one grammar, which the engine knows under one name. A request may write that
name with blanks around it and in any ASCII case; typed documents write it exactly.
-/

namespace LineHighlight

/-- A language of the common set. -/
inductive Language where
  | bash
  | c
  | cpp
  | cSharp
  | css
  | diff
  | go
  | graphQl
  | ini
  | java
  | javaScript
  | json
  | kotlin
  | less
  | lua
  | makefile
  | markdown
  | objectiveC
  | perl
  | php
  | phpTemplate
  | plainText
  | python
  | pythonRepl
  | r
  | ruby
  | rust
  | scss
  | shell
  | sql
  | swift
  | typeScript
  | vbNet
  | wasm
  | xml
  | yaml
deriving DecidableEq, Repr, Inhabited

namespace Language

/-- Every language, in the order of the grammar names. -/
def all : List Language :=
  [.bash, .c, .cpp, .cSharp, .css, .diff, .go, .graphQl, .ini, .java, .javaScript, .json,
   .kotlin, .less, .lua, .makefile, .markdown, .objectiveC, .perl, .php, .phpTemplate, .plainText,
   .python, .pythonRepl, .r, .ruby, .rust, .scss, .shell, .sql, .swift, .typeScript, .vbNet,
   .wasm, .xml, .yaml]

/-- The name of the grammar. -/
def grammar : Language → String
  | .bash => "bash"
  | .c => "c"
  | .cpp => "cpp"
  | .cSharp => "csharp"
  | .css => "css"
  | .diff => "diff"
  | .go => "go"
  | .graphQl => "graphql"
  | .ini => "ini"
  | .java => "java"
  | .javaScript => "javascript"
  | .json => "json"
  | .kotlin => "kotlin"
  | .less => "less"
  | .lua => "lua"
  | .makefile => "makefile"
  | .markdown => "markdown"
  | .objectiveC => "objectivec"
  | .perl => "perl"
  | .php => "php"
  | .phpTemplate => "php-template"
  | .plainText => "plaintext"
  | .python => "python"
  | .pythonRepl => "python-repl"
  | .r => "r"
  | .ruby => "ruby"
  | .rust => "rust"
  | .scss => "scss"
  | .shell => "shell"
  | .sql => "sql"
  | .swift => "swift"
  | .typeScript => "typescript"
  | .vbNet => "vbnet"
  | .wasm => "wasm"
  | .xml => "xml"
  | .yaml => "yaml"

/-- The name for a reader. -/
def displayName : Language → String
  | .bash => "Bash"
  | .c => "C"
  | .cpp => "C++"
  | .cSharp => "C#"
  | .css => "CSS"
  | .diff => "Diff"
  | .go => "Go"
  | .graphQl => "GraphQL"
  | .ini => "INI"
  | .java => "Java"
  | .javaScript => "JavaScript"
  | .json => "JSON"
  | .kotlin => "Kotlin"
  | .less => "Less"
  | .lua => "Lua"
  | .makefile => "Makefile"
  | .markdown => "Markdown"
  | .objectiveC => "Objective-C"
  | .perl => "Perl"
  | .php => "PHP"
  | .phpTemplate => "PHP Template"
  | .plainText => "Plain Text"
  | .python => "Python"
  | .pythonRepl => "Python REPL"
  | .r => "R"
  | .ruby => "Ruby"
  | .rust => "Rust"
  | .scss => "SCSS"
  | .shell => "Shell Session"
  | .sql => "SQL"
  | .swift => "Swift"
  | .typeScript => "TypeScript"
  | .vbNet => "Visual Basic .NET"
  | .wasm => "WebAssembly"
  | .xml => "HTML, XML"
  | .yaml => "YAML"

/-- What the language is called in a document of types. -/
def description : Language → String
  | .bash => "Bash"
  | .c => "C"
  | .cpp => "C++"
  | .cSharp => "C#"
  | .css => "CSS"
  | .diff => "Diff"
  | .go => "Go"
  | .graphQl => "GraphQL"
  | .ini => "INI / TOML"
  | .java => "Java"
  | .javaScript => "JavaScript"
  | .json => "JSON"
  | .kotlin => "Kotlin"
  | .less => "Less"
  | .lua => "Lua"
  | .makefile => "Makefile"
  | .markdown => "Markdown"
  | .objectiveC => "Objective-C"
  | .perl => "Perl"
  | .php => "PHP"
  | .phpTemplate => "PHP template"
  | .plainText => "Plain text"
  | .python => "Python"
  | .pythonRepl => "Python REPL"
  | .r => "R"
  | .ruby => "Ruby"
  | .rust => "Rust"
  | .scss => "SCSS"
  | .shell => "Shell session"
  | .sql => "SQL"
  | .swift => "Swift"
  | .typeScript => "TypeScript"
  | .vbNet => "Visual Basic .NET"
  | .wasm => "WebAssembly"
  | .xml => "HTML / XML"
  | .yaml => "YAML"

/-- The name of the variant, which is also the name in a log. -/
def logName : Language → String
  | .bash => "Bash"
  | .c => "C"
  | .cpp => "Cpp"
  | .cSharp => "CSharp"
  | .css => "Css"
  | .diff => "Diff"
  | .go => "Go"
  | .graphQl => "GraphQl"
  | .ini => "Ini"
  | .java => "Java"
  | .javaScript => "JavaScript"
  | .json => "Json"
  | .kotlin => "Kotlin"
  | .less => "Less"
  | .lua => "Lua"
  | .makefile => "Makefile"
  | .markdown => "Markdown"
  | .objectiveC => "ObjectiveC"
  | .perl => "Perl"
  | .php => "Php"
  | .phpTemplate => "PhpTemplate"
  | .plainText => "PlainText"
  | .python => "Python"
  | .pythonRepl => "PythonRepl"
  | .r => "R"
  | .ruby => "Ruby"
  | .rust => "Rust"
  | .scss => "Scss"
  | .shell => "Shell"
  | .sql => "Sql"
  | .swift => "Swift"
  | .typeScript => "TypeScript"
  | .vbNet => "VbNet"
  | .wasm => "Wasm"
  | .xml => "Xml"
  | .yaml => "Yaml"

/-- The name in typed documents: that of the variant in small letters, except where the words of
the name are kept apart. -/
def typedName : Language → String
  | .phpTemplate => "php-template"
  | .pythonRepl => "python-repl"
  | l => Text.lowerAscii l.logName

/-- The language that a request names, if it is one of these. -/
def parse? (s : String) : Option Language :=
  all.find? fun l => Text.eqIgnoringCase l.grammar (Text.trim s)

/-- The language that a request names. A failure shows the name as it was written. -/
def parse (s : String) : Except Error Language :=
  match parse? s with
  | some l => .ok l
  | none => .error (.unknownLanguage s)

/-- The language of a typed document. -/
def ofJson : Json.Decoder Language :=
  Json.enum (all.map fun l => (l.typedName, l))

/-- The typed form of a language. -/
def toJson (l : Language) : Json :=
  .string l.typedName

end Language

end LineHighlight
