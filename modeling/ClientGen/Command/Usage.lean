/-
# Usage

The texts that explain the command line, laid out for eighty columns.
-/
import ClientGen.Command.Arguments

namespace ClientGen.Command

/-- The name of the command. -/
def commandName : Text := "openapi-codegen"

/-- Lines as a text. -/
def textOfLines (lines : List String) : Text := lines.flatMap fun line => line.toList ++ ['\n']

/-- How the command is used. -/
def usage : Text := textOfLines
  ["usage: openapi-codegen [-h] [--dirname DIRNAME] [--encode-path-params]",
    "                       [--max-redirects MAX_REDIRECTS] [--timeout TIMEOUT]",
    "                       [--init-config] [-v]",
    "                       [url]"]

/-- What the command does, and what its arguments mean. -/
def explanation : Text := textOfLines
  ["Генерация aiohttp клиента из OpenAPI: common.py, модуль на тег и __init__.py",
    "",
    "positional arguments:",
    "  url                   URL или путь к OpenAPI спецификации (иначе SPEC_URL,",
    "                        openapi.toml, значение по умолчанию)",
    "",
    "options:",
    "  -h, --help            show this help message and exit",
    "  --dirname DIRNAME     Директория для генерации клиента",
    "  --encode-path-params  Экранировать значения path параметров (quote) вместо",
    "                        подстановки как есть",
    "  --max-redirects MAX_REDIRECTS",
    "                        Максимальное число редиректов при загрузке",
    "  --timeout TIMEOUT     Таймаут загрузки спецификации, сек",
    "  --init-config         Создать конфиг файл openapi.toml",
    "  -v, --verbose         Отладочный вывод"]

/-- The answer to a request for help. -/
def help : Text := usage ++ '\n' :: explanation

/-- The line about a command line that cannot be used. -/
def misuseLine (misuse : Misuse) : Text := commandName ++ ": error: " ++ misuse.message

end ClientGen.Command
