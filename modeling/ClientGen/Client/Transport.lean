/-
# The transport module

The one module of a generated client that does not depend on the document: an
HTTP client shared by all tag classes.  Its source is a constant, given here line
by line.
-/
import ClientGen.Code.Basic

namespace ClientGen.Transport

/-- The name of the file. -/
def fileName : Text := "common.py"

/-- The comment that the file begins with. -/
def header : Text :=
  "# Auto-generated (safe to edit). Shared aiohttp transport for the tag APIs."

/-- The source of the shared HTTP client, line by line. -/
def sourceLines : List Text :=
  List.map String.toList
    ["import inspect",
     "import json",
     "import logging",
     "from typing import Any, Awaitable, Callable, Dict, List, Mapping, Optional, Tuple, Union",
     "",
     "import aiohttp",
     "",
     "logger = logging.getLogger(__name__)",
     "",
     "__all__ = [\"HttpClient\", \"RequestFailure\"]",
     "",
     "TokenGetter = Callable[[], Union[Optional[str], Awaitable[Optional[str]]]]",
     "",
     "",
     "class RequestFailure(Exception):",
     "    \"\"\"Ответ API со статусом вне диапазона 2xx\"\"\"",
     "",
     "    def __init__(self, status: int, body: str, method: str = \"\", path: str = \"\"):",
     "        self.status = status",
     "        self.body = body",
     "        self.method = method",
     "        self.path = path",
     "        super().__init__(f\"HTTP \x7bstatus\x7d \x7bmethod\x7d \x7bpath\x7d: \x7bbody\x7d\")",
     "",
     "",
     "def _has_header(headers: Mapping[str, str], name: str) -> bool:",
     "    name = name.lower()",
     "    return any(key.lower() == name for key in headers)",
     "",
     "",
     "def _get_header(headers: Mapping[str, str], name: str) -> Optional[str]:",
     "    name = name.lower()",
     "    for key, value in headers.items():",
     "        if key.lower() == name:",
     "            return value",
     "    return None",
     "",
     "",
     "def _query_value(value: Any) -> str:",
     "    if isinstance(value, bool):",
     "        return str(value).lower()",
     "    return str(value)",
     "",
     "",
     "def prepare_query(query: Optional[Mapping[str, Any]]) -> List[Tuple[str, str]]:",
     "    \"\"\"Query параметры: None пропускаются, списки разворачиваются в повторы\"\"\"",
     "    params = []",
     "    for key, value in (query or \x7b\x7d).items():",
     "        if value is None:",
     "            continue",
     "        if isinstance(value, (list, tuple)):",
     "            params.extend((key, _query_value(item)) for item in value if item is not None)",
     "        else:",
     "            params.append((key, _query_value(value)))",
     "    return params",
     "",
     "",
     "class HttpClient:",
     "    \"\"\"HTTP клиент на базе aiohttp, общий для всех API классов\"\"\"",
     "",
     "    def __init__(",
     "        self,",
     "        base_url: str = \"\",",
     "        default_headers: Optional[Dict[str, str]] = None,",
     "        get_token: Optional[TokenGetter] = None,",
     "        timeout: Optional[float] = None,",
     "        session: Optional[aiohttp.ClientSession] = None,",
     "    ):",
     "        self.base_url = base_url.rstrip(\"/\")",
     "        self.default_headers = dict(default_headers) if default_headers else \x7b\x7d",
     "        self.get_token = get_token",
     "        self._timeout = timeout",
     "        self._session = session",
     "        self._owns_session = session is None",
     "",
     "    async def _ensure_session(self) -> aiohttp.ClientSession:",
     "        if self._session is None or self._session.closed:",
     "            self._session = aiohttp.ClientSession(",
     "                timeout=aiohttp.ClientTimeout(total=self._timeout)",
     "            )",
     "            self._owns_session = True",
     "        return self._session",
     "",
     "    async def _token(self) -> Optional[str]:",
     "        if self.get_token is None:",
     "            return None",
     "        token = self.get_token()",
     "        if inspect.isawaitable(token):",
     "            token = await token",
     "        return token",
     "",
     "    async def request(",
     "        self,",
     "        path: str,",
     "        method: str = \"GET\",",
     "        query: Optional[Mapping[str, Any]] = None,",
     "        headers: Optional[Mapping[str, str]] = None,",
     "        body: Any = None,",
     "        form_data: Optional[Mapping[str, Any]] = None,",
     "        accept: Optional[str] = \"application/json\",",
     "        content_type: Optional[str] = None,",
     "    ) -> Any:",
     "        url = self.base_url + path",
     "        hdrs = \x7b**self.default_headers, **(headers or \x7b\x7d)\x7d",
     "        if accept and not _has_header(hdrs, \"Accept\"):",
     "            hdrs[\"Accept\"] = accept",
     "",
     "        data = None",
     "        if form_data is not None:",
     "            data = aiohttp.FormData()",
     "            for key, value in form_data.items():",
     "                if value is None:",
     "                    continue",
     "                if not isinstance(value, (str, bytes)) and not hasattr(value, \"read\"):",
     "                    value = _query_value(value)",
     "                data.add_field(key, value)",
     "        elif body is not None:",
     "            content_type = content_type or _get_header(hdrs, \"Content-Type\") " ++
       "or \"application/json\"",
     "            hdrs = \x7bk: v for k, v in hdrs.items() if k.lower() != \"content-type\"\x7d",
     "            hdrs[\"Content-Type\"] = content_type",
     "            data = json.dumps(body) if \"json\" in content_type else body",
     "",
     "        token = await self._token()",
     "        if token and not _has_header(hdrs, \"Authorization\"):",
     "            hdrs[\"Authorization\"] = \"Bearer \" + token",
     "",
     "        session = await self._ensure_session()",
     "        logger.debug(f\"Making \x7bmethod\x7d request to \x7burl\x7d\")",
     "",
     "        async with session.request(",
     "            method, url, params=prepare_query(query), headers=hdrs, data=data",
     "        ) as response:",
     "            text = await response.text()",
     "            logger.debug(f\"Response status: \x7bresponse.status\x7d\")",
     "",
     "            if not 200 <= response.status < 300:",
     "                raise RequestFailure(response.status, text, method=method, path=path)",
     "",
     "            response_type = response.headers.get(\"Content-Type\", \"\")",
     "            if accept and \"json\" in accept and \"json\" in response_type:",
     "                return json.loads(text) if text else None",
     "            return text",
     "",
     "    async def close(self):",
     "        \"\"\"Закрытие собственной сессии; переданная снаружи сессия не закрывается\"\"\"",
     "        if self._owns_session and self._session and not self._session.closed:",
     "            await self._session.close()",
     "",
     "    async def __aenter__(self):",
     "        return self",
     "",
     "    async def __aexit__(self, exc_type, exc_val, exc_tb):",
     "        await self.close()"]

/-- The source of the shared HTTP client. -/
def source : Text := Text.joinWith "\n" sourceLines

/-- The transport file of every project. -/
def file : Code.File where
  name := fileName
  header := [header]
  blocks := [{ code := source }]

/-- The text of the transport file. -/
def text : Text := file.text

end ClientGen.Transport
