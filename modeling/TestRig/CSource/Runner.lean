import TestRig.CSource.Extract

/-!
Test runners. The runner of a test declares its test functions, initialises, verifies and
destroys every mock around each test, protects each test and its tear-down (inside an exception
frame when exceptions are in use), and calls the tests in source order with their names and
lines.
-/

namespace TestRig.CSource

structure RunnerSpec where
  testFile : String
  testCases : List TestCase
  mocks : List String
  useExceptions : Bool

def mockCalls (mocks : List String) (suffix : String) : String :=
  String.join (mocks.map fun m => "\n  " ++ m ++ "_" ++ suffix ++ "();")

def RunnerSpec.text (r : RunnerSpec) : String :=
  "/* AUTOGENERATED FILE. DO NOT EDIT. */\n#include \"unity.h\"" ++
  (if r.useExceptions then "\n#include \"CException.h\"" else "") ++
  String.join (r.mocks.map fun m => "\n#include \"" ++ m ++ ".h\"") ++
  "\n\nextern void setUp(void);\nextern void tearDown(void);\n" ++
  String.join (r.testCases.map fun t => "\nextern void " ++ t.name ++ "(void);") ++
  "\n\nstatic void CMock_Init(void)\n\x7b" ++ mockCalls r.mocks "Init" ++
  "\n\x7d\n\nstatic void CMock_Verify(void)\n\x7b" ++ mockCalls r.mocks "Verify" ++
  "\n\x7d\n\nstatic void CMock_Destroy(void)\n\x7b" ++ mockCalls r.mocks "Destroy" ++
  "\n\x7d\n\nvoid resetTest(void)\n\x7b\n  tearDown();\n  CMock_Verify();\n  CMock_Destroy();\n" ++
  "  CMock_Init();\n  setUp();\n\x7d\n\nstatic void run_test(UnityTestFunction func, const char* name, int line)\n\x7b\n" ++
  "  Unity.CurrentTestName = name;\n  Unity.CurrentTestLineNumber = line;\n  Unity.NumberOfTests++;\n" ++
  "  CMock_Init();\n  UNITY_CLR_DETAILS();\n  if (TEST_PROTECT())\n  \x7b" ++
  (if r.useExceptions then
    "\n    CEXCEPTION_T e;\n    Try\n    \x7b\n      setUp();\n      func();\n    \x7d\n    Catch(e)\n    \x7b\n" ++
    "      TEST_FAIL_MESSAGE(\"Unhandled exception\");\n    \x7d"
   else "\n    setUp();\n    func();") ++
  "\n  \x7d\n  if (TEST_PROTECT())\n  \x7b\n    tearDown();\n    CMock_Verify();\n  \x7d\n  CMock_Destroy();\n" ++
  "  UnityConcludeTest();\n\x7d\n\nint main(void)\n\x7b\n  UnityBegin(\"" ++ r.testFile ++ "\");" ++
  String.join (r.testCases.map fun t =>
    "\n  run_test(" ++ t.name ++ ", \"" ++ t.name ++ "\", " ++ toString t.line ++ ");") ++
  "\n  return UnityEnd();\n\x7d\n"

end TestRig.CSource
