import SwiftClient.Code.Api

/-!
# Support

What all generated code relies on: errors, dates, values that may be null, and the configuration,
which sends requests.
-/
namespace SwiftClient.Code

def foundation : Code := ["", "", "import Foundation"]

def apiError : Code :=
  foundation
    ++ documented (some "Errors raised by generated APIs.")
      (block "public enum ApiError: Error"
        ["case invalidURL(String)", "case invalidResponse", "case unauthorized(Int)",
          "case status(Int, Data)"])

def dateFormatter : Code :=
  foundation
    ++ ["", "public typealias LocalDate = Date", "public typealias LocalTime = Date",
      "public typealias OffsetDateTime = Date", "public typealias File = Data", ""]
    ++ block "extension DateFormatter"
      (block "private static func iso8601(_ format: String) -> DateFormatter"
          ["let formatter = DateFormatter()", "formatter.calendar = Calendar(identifier: .iso8601)",
            "formatter.locale = Locale(identifier: \"en_US_POSIX\")",
            "formatter.timeZone = TimeZone(secondsFromGMT: 0)", "formatter.dateFormat = format",
            "return formatter"]
        ++ ["", "public static let ISO8601DATE = iso8601(\"yyyy-MM-dd\")",
          "public static let ISO8601TIME = iso8601(\"HH:mm:ss\")",
          "public static let ISO8601DATETIME = iso8601(\"yyyy-MM-dd'T'HH:mm:ss.SSSXXXXX\")"])

def nullableDeclaration : Code :=
  block "public enum Nullable<Wrapped: Codable & Equatable>: Codable, Equatable"
    (["case null", "case value(Wrapped)", ""]
      ++ block "public init(_ value: Wrapped?)"
        (choice "if let value = value" ["self = .value(value)"] ["self = .null"])
      ++ "" :: block "public var value: Wrapped?"
        (block "if case let .value(value) = self" ["return value"] ++ ["return nil"])
      ++ "" :: block "public init(from decoder: Decoder) throws"
        ("let container = try decoder.singleValueContainer()"
          :: choice "if container.decodeNil()" ["self = .null"]
            ["self = .value(try container.decode(Wrapped.self))"])
      ++ "" :: block "public func encode(to encoder: Encoder) throws"
        ("var container = encoder.singleValueContainer()"
          :: switch "self"
            (case "case .null" ["try container.encodeNil()"]
              ++ case "case .value(let value)" ["try container.encode(value)"])))

def nullable : Code :=
  foundation
    ++ documented (some "A value that may be explicitly null, as opposed to absent.")
      nullableDeclaration
    ++ "" :: block "extension KeyedDecodingContainer"
      (block
        ("public func decodeIfPresent<T>(_ type: Nullable<T>.Type, forKey key: K) throws"
          ++ " -> Nullable<T>?")
        (block "guard contains(key) else" ["return nil"]
          ++ ["return try decode(type, forKey: key)"]))

/-- Code for systems on which a module can be imported. -/
def ifImportable (module : String) (code : Code) : Code :=
  ("#if canImport(" ++ module ++ ")") :: code ++ ["#endif"]

def statusCodes (usual additional : List String) : String :=
  "[" ++ listed (usual ++ additional) ++ "]"

def configurationInitializer (retryCodes tokenFailureCodes : List String) : Code :=
  enclosed "public init("
      ["baseURL: URL,", "session: URLSession = .shared,",
        "securityClients: [String: SecurityClient] = [:],", "maxRetries: Int = 3"]
      ") \x7b"
    ++ indented
      ["self.baseURL = baseURL", "self.session = session",
        "self.securityClients = securityClients", "self.maxRetries = maxRetries",
        "self.retryStatusCodes = " ++ statusCodes ["429", "502", "503", "504"] retryCodes,
        "self.tokenFailureStatusCodes = " ++ statusCodes ["401"] tokenFailureCodes,
        "self.encoder = JSONEncoder()",
        "self.encoder.dateEncodingStrategy = .formatted(DateFormatter.ISO8601DATETIME)",
        "self.decoder = JSONDecoder()",
        "self.decoder.dateDecodingStrategy = .formatted(DateFormatter.ISO8601DATETIME)"]
    ++ ["\x7d"]

def requestParameters : List String :=
  ["method: String", "path: String", "queryItems: [URLQueryItem]", "headers: [String: String]"]

def schemesParameter : String := "securitySchemes: [String] = []"

def makeRequest : Code :=
  enclosed "func makeRequest(" (arguments (requestParameters ++ [schemesParameter]))
      ") throws -> URLRequest \x7b"
    ++ indented
      (block
          ("guard var components = URLComponents(url: baseURL.appendingPathComponent(path), "
            ++ "resolvingAgainstBaseURL: false) else")
          ["throw ApiError.invalidURL(path)"]
        ++ block "if !queryItems.isEmpty" ["components.queryItems = queryItems"]
        ++ block "guard let url = components.url else" ["throw ApiError.invalidURL(path)"]
        ++ ["var request = URLRequest(url: url)", "request.httpMethod = method"]
        ++ block "for (name, value) in headers"
          ["request.setValue(value, forHTTPHeaderField: name)"]
        ++ block "for scheme in securitySchemes" ["securityClients[scheme]?.apply(to: &request)"]
        ++ ["return request"])
    ++ ["\x7d"]

def makeRequestWithBody : Code :=
  enclosed "func makeRequest<Body: Encodable>("
      (arguments
        (requestParameters ++ ["body: Body?", "contentType: String", schemesParameter]))
      ") throws -> URLRequest \x7b"
    ++ indented
      (("var request = try makeRequest(method: method, path: path, queryItems: queryItems, "
          ++ "headers: headers, securitySchemes: securitySchemes)")
        :: block "if let body = body"
          ["request.setValue(contentType, forHTTPHeaderField: \"Content-Type\")",
            "request.httpBody = try encoder.encode(body)"]
        ++ ["return request"])
    ++ ["\x7d"]

def send : Code :=
  block "func send(_ request: URLRequest) async throws -> (Data, HTTPURLResponse)"
    ("var attempt = 0"
      :: block "while true"
        ("let (data, response) = try await session.data(for: request)"
          :: block "guard let http = response as? HTTPURLResponse else"
            ["throw ApiError.invalidResponse"]
          ++ block "if retryStatusCodes.contains(http.statusCode) && attempt < maxRetries"
            ("attempt += 1"
              :: ifImportable "os"
                ["Self.logger.debug(\"Retrying \\(request.url?.absoluteString ?? \"\", "
                  ++ "privacy: .public) after status \\(http.statusCode)\")"]
              ++ ["try await Task.sleep(nanoseconds: UInt64(attempt) * 500_000_000)", "continue"])
          ++ block "if tokenFailureStatusCodes.contains(http.statusCode)"
            ["throw ApiError.unauthorized(http.statusCode)"]
          ++ ["return (data, http)"]))

def validate : Code :=
  block "func validate(data: Data, response: HTTPURLResponse) throws"
    (block "guard (200..<300).contains(response.statusCode) else"
      ["throw ApiError.status(response.statusCode, data)"])

def decode : Code :=
  block
    ("func decode<T: Decodable>(_ type: T.Type, from data: Data, response: HTTPURLResponse) throws"
      ++ " -> T")
    ["try validate(data: data, response: response)", "return try decoder.decode(type, from: data)"]

def configuration (subsystem : String) (retryCodes tokenFailureCodes : List String) : Code :=
  ["", ""] ++ networkImports ++ ifImportable "os" ["import os"]
    ++ documented (some "Connection settings shared by all APIs.")
      (block "public struct Configuration"
        (["public var baseURL: URL", "public var session: URLSession",
            "public var securityClients: [String: SecurityClient]", "public var maxRetries: Int",
            "public var retryStatusCodes: Set<Int>", "public var tokenFailureStatusCodes: Set<Int>",
            "public var encoder: JSONEncoder", "public var decoder: JSONDecoder", ""]
          ++ ifImportable "os"
            ["static let logger = Logger(subsystem: " ++ stringLiteral subsystem
              ++ ", category: \"Configuration\")"]
          ++ "" :: configurationInitializer retryCodes tokenFailureCodes
          ++ "" :: makeRequest
          ++ "" :: makeRequestWithBody
          ++ "" :: send
          ++ "" :: validate
          ++ "" :: decode))

end SwiftClient.Code
