/-!
# Reserved words

Words that a generated name may not be: keywords of Swift, types of its standard library, and
types that the generated support files declare.
-/
namespace SwiftClient.Naming

def reservedWords : List String :=
  ["Any", "AnyObject", "Array", "Bool", "COLUMN", "Character", "Class", "ClosedRange", "Codable",
   "CountableClosedRange", "CountableRange", "Data", "Decodable", "Dictionary", "Double",
   "Encodable", "Error", "ErrorResponse", "FILE", "FUNCTION", "Float", "Float32", "Float64",
   "Float80", "Int", "Int16", "Int32", "Int64", "Int8", "LINE", "OptionSet", "Optional",
   "Protocol", "Range", "Response", "Self", "Set", "StaticString", "String", "Type", "UInt",
   "UInt16", "UInt32", "UInt64", "UInt8", "URL", "Unicode", "Void", "_", "as", "associatedtype",
   "associativity", "break", "case", "catch", "class", "continue", "convenience", "default",
   "defer", "deinit", "didSet", "do", "dynamic", "dynamicType", "else", "enum", "extension",
   "fallthrough", "false", "fileprivate", "final", "for", "func", "get", "guard", "if", "import",
   "in", "indirect", "infix", "init", "inout", "internal", "is", "lazy", "left", "let",
   "mutating", "nil", "none", "nonmutating", "open", "operator", "optional", "override",
   "postfix", "precedence", "prefix", "private", "protocol", "public", "repeat", "required",
   "rethrows", "return", "right", "self", "set", "static", "struct", "subscript", "super",
   "switch", "throw", "throws", "true", "try", "typealias", "unowned", "var", "weak", "where",
   "while", "willSet", "Sendable", "Hashable", "LocalDate", "LocalTime", "OffsetDateTime",
   "Decimal", "File", "FormData", "unknown", "RetryConfiguration", "Configuration",
   "SecurityClient", "SecurityClientController", "SecurityScheme", "OAuthPasswordFlowClient",
   "OAuthClientCredentialsFlowClient", "OAuthAuthorizationCodeFlowClient",
   "OAuthAccessTokenManager", "AccessTokenHandler", "OAuthAccessToken",
   "BasicAuthenticationSecurityClient", "APIKeySecurityClient", "AbstractOAuthFlowClient",
   "OAuthConfiguration"]

def isReserved (word : String) : Bool := reservedWords.contains word

end SwiftClient.Naming
