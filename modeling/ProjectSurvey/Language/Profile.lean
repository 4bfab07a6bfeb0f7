import ProjectSurvey.Json.Basic

/-! What is customary in a project of each language: its layers, folders, file extensions and
configuration files. -/

namespace ProjectSurvey

structure Profile where
  name : Text
  layers : List Text
  folders : List Text
  extensions : List Text
  configFiles : List Text
  deriving DecidableEq, Repr

namespace Profile

def commonLayers : List Text := ["domain", "application", "infrastructure"]

def known : List Profile := [
  { name := "javascript"
    layers := commonLayers
    folders := ["src", "test", "tests", "lib"]
    extensions := [".js", ".mjs"]
    configFiles := ["package.json", ".eslintrc", "jest.config.js"] },
  { name := "typescript"
    layers := commonLayers
    folders := ["src", "test", "tests", "dist", "build"]
    extensions := [".ts", ".tsx"]
    configFiles := ["package.json", "tsconfig.json", ".eslintrc", "jest.config.js"] },
  { name := "python"
    layers := ["domain", "application", "infrastructure", "adapters"]
    folders := ["src", "tests", "app", "core"]
    extensions := [".py"]
    configFiles := ["requirements.txt", "pyproject.toml", "setup.py", "poetry.lock"] },
  { name := "java"
    layers := ["domain", "application", "infrastructure", "presentation"]
    folders := ["src/main/java", "src/test/java", "target"]
    extensions := [".java"]
    configFiles := ["pom.xml", "build.gradle", "gradle.properties"] },
  { name := "csharp"
    layers := ["Domain", "Application", "Infrastructure", "Presentation"]
    folders := ["src", "tests", "bin", "obj"]
    extensions := [".cs"]
    configFiles := [".csproj", ".sln", "appsettings.json"] },
  { name := "go"
    layers := ["domain", "application", "infrastructure", "interfaces"]
    folders := ["cmd", "internal", "pkg", "test"]
    extensions := [".go"]
    configFiles := ["go.mod", "go.sum"] },
  { name := "rust"
    layers := ["domain", "application", "infrastructure", "adapters"]
    folders := ["src", "tests", "target"]
    extensions := [".rs"]
    configFiles := ["Cargo.toml", "Cargo.lock"] },
  { name := "php"
    layers := ["Domain", "Application", "Infrastructure", "Presentation"]
    folders := ["src", "tests", "vendor"]
    extensions := [".php"]
    configFiles := ["composer.json", "composer.lock", "phpunit.xml"] }]

def unknown : Profile where
  name := "unknown"
  layers := commonLayers
  folders := ["src", "test", "tests"]
  extensions := [".*"]
  configFiles := []

def named (name : Text) : Profile :=
  (known.find? (·.name == name)).getD unknown

def fields (profile : Profile) : List (Text × Json) := [
  ("detectedLanguage", .str profile.name), ("layers", .ofTexts profile.layers),
  ("folderPattern", .ofTexts profile.folders), ("fileExtensions", .ofTexts profile.extensions),
  ("configFiles", .ofTexts profile.configFiles)]

end Profile

end ProjectSurvey
