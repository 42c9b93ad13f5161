import SwiftClient.Code.Basic

/-!
# The package of a client
-/
namespace SwiftClient.Code

/-- The line that a package begins with, before its header. -/
def packagePreface : Code := ["// swift-tools-version:5.7"]

def package (name sourcePath : String) : Code :=
  let name := stringLiteral name
  ["", "", "import PackageDescription", ""]
    ++ enclosed "let package = Package("
      (["name: " ++ name ++ ","]
        ++ enclosed "platforms: [" [".macOS(.v12),", ".iOS(.v15),"] "],"
        ++ enclosed "products: ["
          [".library(name: " ++ name ++ ", targets: [" ++ name ++ "]),"] "],"
        ++ enclosed "targets: ["
          [".target(name: " ++ name ++ ", path: " ++ stringLiteral sourcePath ++ "),"] "]")
      ")"

end SwiftClient.Code
